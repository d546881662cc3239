import CredentialRotation.Word

/-!
# Json — Basic

JSON values.  An integer of at most 64 bits is a number of its own; every other number is kept as
it is written, since nothing here calculates with it.  The fields of an object keep their order,
and a name may in principle occur twice.
-/

namespace CredentialRotation

/-- A JSON value. -/
inductive Json where
  | null
  | bool (value : Bool)
  | int (value : Int)
  | real (literal : String)
  | str (text : String)
  | arr (items : List Json)
  | obj (fields : List (String × Json))

namespace Json

instance : Inhabited Json := ⟨.null⟩

/-- The fields of an object. -/
abbrev Fields := List (String × Json)

namespace Fields

/-- The value of the first field of that name. -/
def get? (fields : Fields) (name : String) : Option Json :=
  (fields.find? fun field => field.1 == name).map (·.2)

/-- Give the field `name` the value `value`, in its place or at the end. -/
def set (fields : Fields) (name : String) (value : Json) : Fields :=
  match fields with
  | [] => [(name, value)]
  | field :: rest =>
    if field.1 = name then (name, value) :: rest else field :: set rest name value

/-- Leave out every field of that name. -/
def erase (fields : Fields) (name : String) : Fields :=
  fields.filter fun field => field.1 != name

theorem get?_cons (field : String × Json) (rest : Fields) (name : String) :
    get? (field :: rest) name = if field.1 = name then some field.2 else get? rest name := by
  by_cases h : field.1 = name <;> simp [get?, h]

/-- Setting a field shows under its name and under no other. -/
theorem get?_set (fields : Fields) (name other : String) (value : Json) :
    get? (set fields name value) other =
      if name = other then some value else get? fields other := by
  induction fields with
  | nil => rw [set, get?_cons]
  | cons field rest ih =>
      rw [set]
      by_cases h : field.1 = name
      · rw [if_pos h, get?_cons, get?_cons]
        by_cases hn : name = other
        · simp [hn]
        · rw [if_neg hn, if_neg hn, if_neg fun he => hn (h.symm.trans he)]
      · rw [if_neg h, get?_cons, get?_cons, ih]
        by_cases hn : name = other
        · subst hn
          simp [h]
        · simp [hn]

end Fields

/-! ### Values of one kind -/

/-- The text of a string. -/
def text? : Json → Option String
  | .str text => some text
  | _ => none

/-- The value of a truth value. -/
def bool? : Json → Option Bool
  | .bool value => some value
  | _ => none

/-- An integer of 64 bits with a sign. -/
def int64? : Json → Option Int
  | .int n => if Word.HoldsSigned n then some n else none
  | _ => none

/-- An integer from 0 up to, and not including, `limit`. -/
def natBelow? (limit : Nat) : Json → Option Nat
  | .int n => if 0 ≤ n ∧ n < limit then some n.toNat else none
  | _ => none

/-- Every item of a list, read one by one. -/
def list? {α : Type} (read : Json → Option α) : Json → Option (List α)
  | .arr items => items.mapM read
  | _ => none

/-! ### Values in place of absent ones -/

/-- A text, or `null`. -/
def ofText? : Option String → Json
  | some text => .str text
  | none => .null

/-- An integer, or `null`. -/
def ofInt? : Option Int → Json
  | some n => .int n
  | none => .null

end Json

end CredentialRotation
