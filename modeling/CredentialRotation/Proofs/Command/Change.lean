import CredentialRotation.Command.Basic
import CredentialRotation.Proofs.Json.Merge

/-!
# Proofs — Command — Change

What a document holds once it was suspended, resumed or asked for a rotation.  Each of these is a
merge patch of one field of the spec, or of one annotation.  Where the document is an object, and so
is its spec (`Json.IsKeyed`), everything else stays as it was (`Json.SameButSteered`), and the
resource reads as before but for what was asked for.

* `Order.sameButSteered_merge`: an order touches nothing but what it names.
* `Order.exists_leaves`: the resource can be read again, and has what was asked for.

A resource can also be read from a list of its fields, and so can its spec; a patch replaces such a
list.
-/

namespace CredentialRotation

/-! ### Fields of fields -/

namespace Json

/-- What the document has under a name, or `null`. -/
def inner (doc : Json) (name : String) : Json := (doc.fields.get? name).getD .null

/-- The document is an object, and so is its spec. -/
structure IsKeyed (doc : Json) : Prop where
  fields : ∃ fields, doc = .obj fields
  spec : ∃ fields, doc.inner "spec" = .obj fields

/-- The documents differ at most in whether the resource is suspended, and in the annotation by
which a rotation is asked for. -/
structure SameButSteered (doc doc' : Json) : Prop where
  fields : ∀ name, name ≠ "spec" → name ≠ "metadata" →
    doc'.fields.values name = doc.fields.values name
  spec : ∀ name, name ≠ "suspend" →
    (doc'.inner "spec").fields.values name = (doc.inner "spec").fields.values name
  metadata : ∀ name, name ≠ "annotations" →
    (doc'.inner "metadata").fields.values name = (doc.inner "metadata").fields.values name
  annotations : ∀ name, name ≠ Resource.requestAnnotation →
    ((doc'.inner "metadata").inner "annotations").fields.values name =
      ((doc.inner "metadata").inner "annotations").fields.values name

theorem SameButSteered.refl (doc : Json) : SameButSteered doc doc :=
  ⟨fun _ _ _ => rfl, fun _ _ => rfl, fun _ _ => rfl, fun _ _ => rfl⟩

theorem SameButSteered.trans {doc doc' doc'' : Json} (h : SameButSteered doc doc')
    (h' : SameButSteered doc' doc'') : SameButSteered doc doc'' where
  fields := fun name hs hm => (h'.fields name hs hm).trans (h.fields name hs hm)
  spec := fun name hn => (h'.spec name hn).trans (h.spec name hn)
  metadata := fun name hn => (h'.metadata name hn).trans (h.metadata name hn)
  annotations := fun name hn => (h'.annotations name hn).trans (h.annotations name hn)

/-- A patch of fields within a field. -/
theorem merge_inner (target : Json) (name : String) (changes : Fields) :
    target.merge (.obj [(name, .obj changes)]) =
      .obj (target.fields.set name ((target.inner name).merge (.obj changes))) :=
  merge_field target _ name nofun

/-- A patch of one field by a value without fields. -/
theorem merge_value (target : Json) (name : String) {value : Json} (hnull : value ≠ .null)
    (h : ∀ inner, value ≠ .obj inner) :
    target.merge (.obj [(name, value)]) = .obj (target.fields.set name value) := by
  rw [merge_field target value name hnull, merge_of_ne_obj _ h]

theorem inner_set (fields : Fields) (name other : String) (value : Json) :
    (Json.obj (fields.set name value)).inner other =
      if name = other then value else (Json.obj fields).inner other := by
  rw [inner, Json.fields, Fields.get?_set]
  split <;> rfl

theorem SameButSteered.set_spec {doc value : Json}
    (h : ∀ name, name ≠ "suspend" →
      value.fields.values name = (doc.inner "spec").fields.values name) :
    SameButSteered doc (.obj (doc.fields.set "spec" value)) where
  fields := fun _ hs _ => Fields.values_set_of_ne (Ne.symm hs)
  spec := by rwa [inner_set, if_pos rfl]
  metadata := fun _ _ => by rw [inner_set, if_neg (by decide)]; rfl
  annotations := fun _ _ => by rw [inner_set, if_neg (by decide)]; rfl

theorem SameButSteered.set_metadata {doc value : Json}
    (h : ∀ name, name ≠ "annotations" →
      value.fields.values name = (doc.inner "metadata").fields.values name)
    (h' : ∀ name, name ≠ Resource.requestAnnotation →
      (value.inner "annotations").fields.values name =
        ((doc.inner "metadata").inner "annotations").fields.values name) :
    SameButSteered doc (.obj (doc.fields.set "metadata" value)) where
  fields := fun _ _ hm => Fields.values_set_of_ne (Ne.symm hm)
  spec := fun _ _ => by rw [inner_set, if_neg (by decide)]; rfl
  metadata := by rwa [inner_set, if_pos rfl]
  annotations := by rwa [inner_set, if_pos rfl]

variable {α : Type} {fields : Fields} {name : String} {position : Nat}

/-- A field with one value at most that is there has that value. -/
theorem inner_of_required {read : Json → Option α} {a : α}
    (h : required (.obj fields) position [name] read = some a) :
    (fields.values name).length ≤ 1 ∧ read ((Json.obj fields).inner name) = some a := by
  rw [required, member?_obj] at h
  rw [inner, Json.fields, Fields.get?_eq_head?_values]
  rcases hv : fields.values name with _ | ⟨value, _ | ⟨_, _⟩⟩ <;> rw [hv] at h
  · cases h
  · exact ⟨Nat.le_refl 1, h⟩
  · cases h

/-- So has one that may be absent, where `null` stands for what is absent. -/
theorem inner_of_withDefault {read : Json → Option α} {absent a : α}
    (hnull : read .null = some absent)
    (h : withDefault (.obj fields) position name absent read = some a) :
    (fields.values name).length ≤ 1 ∧ read ((Json.obj fields).inner name) = some a := by
  have hone := length_values_le_one h
  rw [withDefault, member?_obj] at h
  rw [inner, Json.fields, Fields.get?_eq_head?_values]
  refine ⟨hone, ?_⟩
  rcases hv : fields.values name with _ | ⟨value, _ | ⟨_, _⟩⟩ <;> rw [hv] at h
  · exact hnull.trans h
  · exact h
  · cases h

end Json

/-! ### What is read after a change -/

/-- A spec in which suspension is set reads as before but for that. -/
theorem Spec.ofJson?_set_suspend {fields : Json.Fields} {s : Spec}
    (h : ofJson? (.obj fields) = some s) (value : Bool) :
    ofJson? (.obj (fields.set "suspend" (.bool value))) = some { s with suspend := value } := by
  simp only [ofJson?, Json.record?, Json.isRecord, if_true, Option.bind_eq_bind, Option.bind_some,
    Option.bind_eq_some_iff] at h
  obtain ⟨_, h₀, _, h₁, _, h₂, _, h₃, _, h₄, hs⟩ := h
  obtain rfl := Option.some.inj hs
  have hsuspend :
      Json.withDefault (.obj (fields.set "suspend" (.bool value))) 4 "suspend" false Json.bool? =
        some value := by
    rw [Json.withDefault, Json.member?_set (Json.length_values_le_one h₄)]
    rfl
  simp only [ofJson?, Json.record?, Json.isRecord, if_true, Option.bind_eq_bind, Option.bind_some,
    Json.required_set_of_notMem (show "suspend" ∉ ["rotationInterval"] by decide), h₀,
    Json.withDefault_set_of_ne (show "suspend" ≠ "passwordLength" by decide), h₁,
    Json.withDefault_set_of_ne (show "suspend" ≠ "includeSymbols" by decide), h₂,
    Json.required_set_of_notMem (show "suspend" ∉ ["storePath", "vaultPath"] by decide),
    h₃, hsuspend]

/-- An annotation in front hides the ones of its name. -/
theorem Metadata.lookup_cons (name text other : String) (rest : List (String × String)) :
    ((name, text) :: rest).lookup other =
      if other = name then some text else rest.lookup other := by
  rw [List.lookup_cons]
  by_cases h : other = name
  · rw [beq_iff_eq.2 h, if_pos h]
  · rw [beq_eq_false_iff_ne.2 h, if_neg h]

/-- Annotations of which one is set can be read, and show that one and the others. -/
theorem Metadata.exists_annotations?_set {fields : Json.Fields}
    {annotations : List (String × String)}
    (h : annotations? (.obj fields) = some annotations) (name text : String) :
    ∃ annotations', annotations? (.obj (fields.set name (.str text))) = some annotations' ∧
      ∀ other, annotations'.lookup other =
        if other = name then some text else annotations.lookup other := by
  unfold annotations? at h ⊢
  dsimp only at h ⊢
  induction fields generalizing annotations with
  | nil =>
      cases h
      exact ⟨[(name, text)], rfl, fun other => lookup_cons name text other []⟩
  | cons field rest ih =>
      obtain ⟨here, value⟩ := field
      simp only [List.mapM_cons, Option.bind_eq_bind, Option.bind_eq_some_iff,
        Option.map_eq_some_iff] at h
      obtain ⟨_, ⟨before, hvalue, rfl⟩, others, hrest, ho⟩ := h
      obtain rfl := Option.some.inj ho
      rw [Json.Fields.set]
      by_cases hname : here = name
      · subst hname
        rw [if_pos rfl]
        refine ⟨(here, text) :: others, ?_, fun other => ?_⟩
        · rw [List.mapM_cons, hrest]
          rfl
        · rw [lookup_cons, lookup_cons]
          split <;> rfl
      · rw [if_neg hname]
        obtain ⟨others', hread, hlookup⟩ := ih hrest
        refine ⟨(here, before) :: others', ?_, fun other => ?_⟩
        · rw [List.mapM_cons, hread, hvalue]
          rfl
        · rw [lookup_cons, lookup_cons, hlookup]
          split
          · next hother => rw [if_neg fun he => hname (hother.symm.trans he)]
          · rfl

/-- Metadata is read from an object only. -/
theorem Metadata.exists_fields {value : Json} {m : Metadata} (h : ofJson? value = some m) :
    ∃ fields, value = .obj fields := by
  cases value with
  | obj fields => exact ⟨fields, rfl⟩
  | null | bool _ | int _ | real _ | str _ | arr _ => cases h

/-- What is read as annotations can be read as an object of them. -/
theorem Metadata.annotations?_obj_fields {value : Json} {annotations : List (String × String)}
    (h : annotations? value = some annotations) :
    annotations? (.obj value.fields) = some annotations := by
  cases value with
  | null | obj _ => exact h
  | bool _ | int _ | real _ | str _ | arr _ => cases h

/-- Metadata in which an annotation is set read as before but for that, whether there were
annotations before or not. -/
theorem Metadata.exists_ofJson?_set {fields : Json.Fields} {m : Metadata}
    (h : ofJson? (.obj fields) = some m) (name text : String) :
    ∃ annotations, ofJson? (.obj (fields.set "annotations"
        (.obj (((Json.obj fields).inner "annotations").fields.set name (.str text))))) =
          some { m with annotations := annotations } ∧
      ∀ other, annotations.lookup other =
        if other = name then some text else m.annotations.lookup other := by
  simp only [ofJson?, Option.bind_eq_bind, Option.bind_eq_some_iff, Json.optional] at h
  obtain ⟨_, h₀, _, h₁, _, h₂, _, h₃, hm⟩ := h
  obtain rfl := Option.some.inj hm
  have hnone : annotations? .null = some [] := rfl
  obtain ⟨hone, hread⟩ := Json.inner_of_withDefault hnone h₃
  obtain ⟨annotations, hset, hlookup⟩ :=
    exists_annotations?_set (annotations?_obj_fields hread) name text
  refine ⟨annotations, ?_, hlookup⟩
  simp only [ofJson?, Option.bind_eq_bind, Json.optional, Option.bind_some,
    Json.withDefault_set_of_ne (show "annotations" ≠ "name" by decide), h₀,
    Json.withDefault_set_of_ne (show "annotations" ≠ "namespace" by decide), h₁,
    Json.withDefault_set_of_ne (show "annotations" ≠ "generation" by decide), h₂]
  rw [Json.withDefault, Json.member?_set hone]
  dsimp only
  rw [hset]
  rfl

namespace Resource

variable {fields : Json.Fields} {r : Resource} {value : Json}

/-- A resource is read from an object part by part. -/
theorem ofJson?_obj_iff : ofJson? (.obj fields) = some r ↔
    (Json.obj fields).required 0 ["metadata"] Metadata.ofJson? = some r.metadata ∧
      (Json.obj fields).required 1 ["spec"] Spec.ofJson? = some r.spec ∧
      (Json.obj fields).optional 2 "status" Status.ofJson? = some r.status := by
  simp only [ofJson?, Json.record?, Json.isRecord, if_true, Option.bind_eq_bind, Option.bind_some,
    Option.bind_eq_some_iff]
  constructor
  · rintro ⟨_, hmetadata, _, hspec, _, hstatus, hr⟩
    obtain rfl := Option.some.inj hr
    exact ⟨hmetadata, hspec, hstatus⟩
  · rintro ⟨hmetadata, hspec, hstatus⟩
    exact ⟨_, hmetadata, _, hspec, _, hstatus, rfl⟩

/-- Another spec is read in place of the one before. -/
theorem ofJson?_set_spec (h : ofJson? (.obj fields) = some r) {spec : Spec}
    (hvalue : Spec.ofJson? value = some spec) :
    ofJson? (.obj (fields.set "spec" value)) = some { r with spec := spec } := by
  obtain ⟨hmetadata, hspec, hstatus⟩ := ofJson?_obj_iff.1 h
  obtain ⟨hone, -⟩ := Json.inner_of_required hspec
  refine ofJson?_obj_iff.2 ⟨?_, ?_, ?_⟩
  · rwa [Json.required_set_of_notMem (by decide)]
  · rwa [Json.required, Json.member?_set hone]
  · rwa [Json.optional, Json.withDefault_set_of_ne (by decide)]

/-- So is other metadata. -/
theorem ofJson?_set_metadata (h : ofJson? (.obj fields) = some r) {metadata : Metadata}
    (hvalue : Metadata.ofJson? value = some metadata) :
    ofJson? (.obj (fields.set "metadata" value)) = some { r with metadata := metadata } := by
  obtain ⟨hmetadata, hspec, hstatus⟩ := ofJson?_obj_iff.1 h
  obtain ⟨hone, -⟩ := Json.inner_of_required hmetadata
  refine ofJson?_obj_iff.2 ⟨?_, ?_, ?_⟩
  · rwa [Json.required, Json.member?_set hone]
  · rwa [Json.required_set_of_notMem (by decide)]
  · rwa [Json.optional, Json.withDefault_set_of_ne (by decide)]

end Resource

namespace Command

open Json (IsKeyed SameButSteered)

/-! ### Orders -/

/-- What can be asked of a resource. -/
inductive Order where
  /-- It is suspended, or resumed. -/
  | suspend (value : Bool)
  /-- It is rotated out of turn. -/
  | rotate (now : Instant)

namespace Order

/-- The change that is sent for it. -/
def change : Order → Json
  | suspend value => suspendChange value
  | rotate now => requestChange (requestText now)

/-- Whether the resource is to be suspended from now on, if the order says so. -/
def asked? : Order → Option Bool
  | suspend value => some value
  | rotate _ => none

/-- The request for a rotation that it leaves. -/
def request? : Order → Option String
  | suspend _ => none
  | rotate now => some (requestText now)

/-- What the order leaves of a resource where it is carried out. -/
structure Leaves (order : Order) (r r' : Resource) : Prop where
  status : r'.status = r.status
  spec : r'.spec = { r.spec with suspend := order.asked?.getD r.spec.suspend }
  metadata : r'.metadata = { r.metadata with annotations := r'.metadata.annotations }
  request : r'.rotateRequest = order.request?.or r.rotateRequest
  annotations : ∀ name, name ≠ Resource.requestAnnotation →
    r'.metadata.annotations.lookup name = r.metadata.annotations.lookup name

theorem merge_suspendChange (doc : Json) (value : Bool) : doc.merge (suspendChange value) =
    .obj (doc.fields.set "spec"
      (.obj ((doc.inner "spec").fields.set "suspend" (.bool value)))) := by
  rw [suspendChange, Json.merge_inner, Json.merge_value]
  all_goals exact nofun

theorem merge_requestChange (doc : Json) (text : String) : doc.merge (requestChange text) =
    .obj (doc.fields.set "metadata" (.obj ((doc.inner "metadata").fields.set "annotations"
      (.obj (((doc.inner "metadata").inner "annotations").fields.set Resource.requestAnnotation
        (.str text)))))) := by
  rw [requestChange, Json.merge_inner, Json.merge_inner, Json.merge_value]
  all_goals exact nofun

/-- **An order touches nothing but what it names.** -/
theorem sameButSteered_merge (order : Order) (doc : Json) :
    SameButSteered doc (doc.merge order.change) := by
  cases order with
  | suspend value =>
      rw [change, merge_suspendChange]
      exact .set_spec fun _ hn => Json.Fields.values_set_of_ne (Ne.symm hn)
  | rotate now =>
      rw [change, merge_requestChange]
      refine .set_metadata (fun _ hn => Json.Fields.values_set_of_ne (Ne.symm hn)) fun _ hn => ?_
      rw [Json.inner_set, if_pos rfl]
      exact Json.Fields.values_set_of_ne (Ne.symm hn)

theorem isKeyed_merge (order : Order) {doc : Json} (h : doc.IsKeyed) :
    (doc.merge order.change).IsKeyed := by
  cases order with
  | suspend value =>
      rw [change, merge_suspendChange]
      exact ⟨⟨_, rfl⟩, _, Json.inner_set _ _ _ _⟩
  | rotate now =>
      rw [change, merge_requestChange]
      refine ⟨⟨_, rfl⟩, ?_⟩
      rw [Json.inner_set, if_neg (by decide)]
      exact h.spec

/-- **An order leaves a resource that can be read**, with what was asked for. -/
theorem exists_leaves (order : Order) {doc : Json} {r : Resource}
    (hdoc : Resource.ofJson? doc = some r) (hkeyed : doc.IsKeyed) :
    ∃ r', Resource.ofJson? (doc.merge order.change) = some r' ∧ order.Leaves r r' := by
  obtain ⟨⟨fields, rfl⟩, specFields, hspecFields⟩ := hkeyed
  obtain ⟨hmetadata, hspec, -⟩ := Resource.ofJson?_obj_iff.1 hdoc
  cases order with
  | suspend value =>
      obtain ⟨-, hread⟩ := Json.inner_of_required hspec
      rw [hspecFields] at hread
      rw [change, merge_suspendChange, hspecFields]
      exact ⟨_, Resource.ofJson?_set_spec hdoc (Spec.ofJson?_set_suspend hread value),
        rfl, rfl, rfl, rfl, fun _ _ => rfl⟩
  | rotate now =>
      obtain ⟨-, hread⟩ := Json.inner_of_required hmetadata
      obtain ⟨metadataFields, hmetadataFields⟩ := Metadata.exists_fields hread
      rw [hmetadataFields] at hread
      obtain ⟨annotations, hset, hlookup⟩ :=
        Metadata.exists_ofJson?_set hread Resource.requestAnnotation (requestText now)
      rw [change, merge_requestChange, hmetadataFields]
      refine ⟨_, Resource.ofJson?_set_metadata hdoc hset, rfl, rfl, rfl, ?_, fun name hn => ?_⟩
      · exact (hlookup _).trans (if_pos rfl)
      · exact (hlookup _).trans (if_neg hn)

end Order

end Command

end CredentialRotation
