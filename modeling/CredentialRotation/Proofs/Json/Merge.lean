import CredentialRotation.Json.Merge
import CredentialRotation.Json.Record

/-!
# Proofs — Json — Merge

What a record holds once a merge patch was applied to it.  A field of a record is decided by the
*values* that the object gives its name (`Fields.values`): there has to be one at most.  A patch is
*flat* if it changes every name once, and to a value that is no object; such a value takes the place
of the one before, whatever that was.

* `Fields.values_mergeFields`: a flat patch decides the names that it changes, and leaves the others
  alone.
* `withDefault_mergeFields`: so a field that the patch changes reads from the patch, `null` standing
  for a field that is absent.
-/

namespace CredentialRotation.Json

/-! ### The values of a name -/

namespace Fields

variable {fields changes : Fields} {name other : String} {value : Json}

/-- Every value that the fields give a name, in their order. -/
def values (fields : Fields) (name : String) : List Json :=
  (fields.filter fun field => [name].contains field.1).map (·.2)

theorem values_cons (field : String × Json) (rest : Fields) (name : String) :
    values (field :: rest) name =
      if field.1 = name then field.2 :: values rest name else values rest name := by
  by_cases h : field.1 = name <;> simp [values, h]

theorem get?_eq_head?_values (fields : Fields) (name : String) :
    get? fields name = (values fields name).head? := by
  induction fields with
  | nil => rfl
  | cons field rest ih =>
      rw [get?_cons, values_cons]
      split
      · rfl
      · exact ih

/-- Setting a field takes the place of its first value. -/
theorem values_set (fields : Fields) (name other : String) (value : Json) :
    values (set fields name value) other =
      if name = other then value :: (values fields other).tail else values fields other := by
  induction fields with
  | nil =>
      rw [set, values_cons]
      rfl
  | cons field rest ih =>
      rw [set]
      by_cases hn : name = other
      · subst hn
        rw [if_pos rfl]
        split
        · next h => rw [values_cons, values_cons, if_pos rfl, if_pos h, List.tail_cons]
        · next h => rw [values_cons, values_cons, if_neg h, if_neg h, ih, if_pos rfl]
      · rw [if_neg hn]
        split
        · next h => rw [values_cons, values_cons, if_neg hn, if_neg fun he => hn (h.symm.trans he)]
        · rw [values_cons, values_cons, ih, if_neg hn]

theorem values_set_of_ne (h : name ≠ other) :
    values (set fields name value) other = values fields other :=
  (values_set fields name other value).trans (if_neg h)

theorem values_erase (fields : Fields) (name other : String) :
    values (erase fields name) other = if name = other then [] else values fields other := by
  induction fields with
  | nil => simp [erase, values]
  | cons field rest ih =>
      by_cases h : field.1 = name
      · have he : erase (field :: rest) name = erase rest name := by
          rw [erase, List.filter_cons_of_neg (by simp [h])]
          rfl
        rw [he, ih, values_cons]
        split
        · rfl
        · next hn => rw [if_neg fun ho => hn (h.symm.trans ho)]
      · have he : erase (field :: rest) name = field :: erase rest name := by
          rw [erase, List.filter_cons_of_pos (by simpa using h)]
          rfl
        rw [he, values_cons, values_cons, ih]
        by_cases hn : name = other
        · subst hn
          rw [if_neg h, if_pos rfl, if_pos rfl]
        · rw [if_neg hn, if_neg hn]

/-! ### Flat patches -/

/-- Every name is changed once, and to no object. -/
def IsFlat (changes : Fields) : Prop :=
  (changes.map Prod.fst).Nodup ∧ ∀ change ∈ changes, ∀ inner, change.2 ≠ .obj inner

theorem IsFlat.tail {change : String × Json} (h : IsFlat (change :: changes)) : IsFlat changes :=
  ⟨(List.nodup_cons.1 h.1).2, fun c hc => h.2 c (List.mem_cons_of_mem _ hc)⟩

/-- A name that was changed is not changed again. -/
theorem IsFlat.get?_eq_none {change : String × Json} (h : IsFlat (change :: changes)) :
    get? changes change.1 = none := by
  rw [get?, Option.map_eq_none_iff, List.find?_eq_none]
  intro c hc he
  exact (List.nodup_cons.1 h.1).1 (List.mem_map.2 ⟨c, hc, by simpa using he⟩)

end Fields

/-- A value that is no object takes the place of what it patches. -/
theorem merge_of_ne_obj (target : Json) {change : Json} (h : ∀ inner, change ≠ .obj inner) :
    merge target change = change := by
  cases change with
  | obj inner => exact absurd rfl (h inner)
  | null | bool _ | int _ | real _ | str _ | arr _ =>
      rw [merge]
      intro inner he
      cases he

theorem tail_of_length_le_one {values : List Json} (h : values.length ≤ 1) : values.tail = [] :=
  List.eq_nil_of_length_eq_zero (by rw [List.length_tail]; omega)

/-- The values of a name that is changed: `null` leaves none, and any other value takes the place of
the first. -/
def changed : Json → List Json → List Json
  | .null, _ => []
  | value, before => value :: before.tail

/-- A name with one value at most has one at most when it is changed. -/
theorem changed_of_ne_null {change : Json} {before : List Json} (hn : change ≠ .null)
    (hone : before.length ≤ 1) : changed change before = [change] := by
  cases change with
  | null => exact absurd rfl hn
  | bool _ | int _ | real _ | str _ | arr _ | obj _ =>
      rw [changed, tail_of_length_le_one hone]
      exact nofun

/-- One change that is no object. -/
theorem values_change (fields : Fields) (name other : String) {change : Json}
    (h : ∀ inner, change ≠ .obj inner) (rest : Fields) :
    ∃ after : Fields, mergeFields fields ((name, change) :: rest) = mergeFields after rest ∧
      after.values other =
        if name = other then changed change (fields.values other) else fields.values other := by
  cases change with
  | obj inner => exact absurd rfl (h inner)
  | null => exact ⟨fields.erase name, by rw [mergeFields], fields.values_erase name other⟩
  | bool _ | int _ | real _ | str _ | arr _ =>
      refine ⟨fields.set name _, ?_, fields.values_set name other _⟩
      rw [mergeFields, merge_of_ne_obj _ h]
      intro he
      cases he

/-- **A flat patch decides the names that it changes**, and leaves the others alone. -/
theorem Fields.values_mergeFields {changes : Fields} (h : changes.IsFlat) (fields : Fields)
    (name : String) :
    values (mergeFields fields changes) name =
      match changes.get? name with
      | some change => changed change (fields.values name)
      | none => fields.values name := by
  induction changes generalizing fields with
  | nil =>
      rw [mergeFields]
      rfl
  | cons change rest ih =>
      obtain ⟨after, hm, hv⟩ :=
        values_change fields change.1 name (h.2 change List.mem_cons_self) rest
      rw [show change :: rest = (change.1, change.2) :: rest from rfl, hm, ih h.tail, get?_cons]
      by_cases hn : change.1 = name
      -- the rest of a flat patch leaves the name alone
      · rw [← hn, h.get?_eq_none, if_pos rfl]
        rw [if_pos hn, ← hn] at hv
        exact hv
      · rw [if_neg hn] at hv ⊢
        rw [hv]

/-! ### Fields of a record -/

/-- What an object holds under a name: its one value, or nothing. -/
theorem member?_obj (fields : Fields) (position : Nat) (name : String) :
    member? (.obj fields) position [name] =
      match fields.values name with
      | [] => some none
      | [value] => some (some value)
      | _ => none := by
  simp only [member?, Fields.values]
  generalize (fields.filter fun field => [name].contains field.1) = found
  match found with
  | [] | [_] | _ :: _ :: _ => rfl

variable {α : Type} {fields changes : Fields} {name other : String} {names : List String}
  {position : Nat} {absent : α}
  {read : Json → Option α} {value : Json}

/-- A field with one value at most holds what it is set to. -/
theorem member?_set (h : (fields.values name).length ≤ 1) :
    member? (.obj (fields.set name value)) position [name] = some (some value) := by
  rw [member?_obj, Fields.values_set, if_pos rfl, tail_of_length_le_one h]

/-- Setting a field leaves what a record holds under other names. -/
theorem member?_set_of_notMem (h : name ∉ names) :
    member? (.obj (fields.set name value)) position names =
      member? (.obj fields) position names := by
  have hfilter : (fields.set name value).filter (fun field => names.contains field.1) =
      fields.filter fun field => names.contains field.1 := by
    induction fields with
    | nil => rw [Fields.set, List.filter_cons_of_neg (by simpa using h)]
    | cons field rest ih =>
        rw [Fields.set]
        split
        · next hname =>
          rw [List.filter_cons_of_neg (by simpa using h),
            List.filter_cons_of_neg (by simpa [hname] using h)]
        · rw [List.filter_cons, List.filter_cons, ih]
  rw [member?, member?, hfilter]

/-- Setting a field leaves what is required under other names. -/
theorem required_set_of_notMem (h : name ∉ names) :
    required (.obj (fields.set name value)) position names read =
      required (.obj fields) position names read := by
  rw [required, member?_set_of_notMem h, required]

theorem required_set_of_ne (h : name ≠ other) :
    required (.obj (fields.set name value)) position [other] read =
      required (.obj fields) position [other] read :=
  required_set_of_notMem (mt List.mem_singleton.1 h)

/-- It also leaves what may be absent under another name. -/
theorem withDefault_set_of_ne (h : name ≠ other) :
    withDefault (.obj (fields.set name value)) position other absent read =
      withDefault (.obj fields) position other absent read := by
  rw [withDefault, member?_set_of_notMem (mt List.mem_singleton.1 h), withDefault]

/-- A field that was read has one value at most. -/
theorem length_values_le_one {a : α}
    (h : withDefault (.obj fields) position name absent read = some a) :
    (fields.values name).length ≤ 1 := by
  rw [withDefault, member?_obj] at h
  match hv : fields.values name with
  | [] => exact Nat.zero_le 1
  | [_] => exact Nat.le_refl 1
  | _ :: _ :: _ =>
      rw [hv] at h
      cases h

/-- **A field that a flat patch changes** reads as the change does, where `null` reads as what is
absent. -/
theorem withDefault_mergeFields {change : Json} (h : changes.IsFlat)
    (hone : (fields.values name).length ≤ 1) (hc : changes.get? name = some change)
    (hnull : change = .null → read .null = some absent) :
    withDefault (.obj (mergeFields fields changes)) position name absent read = read change := by
  rw [withDefault, member?_obj, Fields.values_mergeFields h, hc]
  by_cases hn : change = .null
  · subst hn
    exact (hnull rfl).symm
  · dsimp only
    rw [changed_of_ne_null hn hone]

end CredentialRotation.Json
