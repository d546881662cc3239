import CredentialRotation.Proofs.Course.Echo
import CredentialRotation.Proofs.Course.Kept
import CredentialRotation.Proofs.Json.Merge
import CredentialRotation.Reconcile
import CredentialRotation.Resource.Document

/-!
# Proofs — Patch

What a resource holds once a record was written to its status.  The record goes out as a merge patch
of the document of the resource; the patch changes every field of the status, to `null` where it is
absent, so that nothing of the status before is left in a field that is read.  That status was read,
and so gives each of these fields one value at most; whatever else it holds does not matter.

* `Status.ofJson?_mergeFields`: a status that patches another reads back as itself.
* `Resource.ofJson?_merge_status`: a resource with a patched status reads as before but for the
  status.
* `StatusPatch.restores_iff`: a record that was written reads back, with the time of the next
  attempt, exactly if the document is an object.  A resource may also be read from a list of its
  fields, and that is lost to a patch.
-/

namespace CredentialRotation

open Json (mergeFields)

/-- Where every instant can be read, none is left out. -/
theorem Instant.filter_of_isReadable {t : Option Instant} (h : ∀ i ∈ t, i.IsReadable) :
    (t.filter fun i => i.IsReadable) = t := by
  cases t with
  | none => rfl
  | some i =>
      rw [Option.filter_some]
      exact if_pos (decide_eq_true (h i rfl))

/-! ### The status -/

namespace Status

/-- The names of the fields that are read. -/
def names : List String :=
  ["lastRotatedTime", "status", "message", "observedGeneration", "nextRotationTime",
    "lastRotateRequest", "conditions"]

/-- A status that is written patches field by field. -/
theorem isFlat_toJson (s : Status) : s.toJson.fields.IsFlat := by
  refine ⟨show names.Nodup by decide, ?_⟩
  have htext : ∀ (text : Option String) inner, Json.ofText? text ≠ .obj inner := by
    rintro (_ | _) <;> exact nofun
  have hint : ∀ (n : Option Int) inner, Json.ofInt? n ≠ .obj inner := by
    rintro (_ | _) <;> exact nofun
  simp only [toJson, Json.fields, List.forall_mem_cons]
  refine ⟨htext _, htext _, htext _, hint _, htext _, htext _, fun _ he => ?_, fun _ hm => ?_⟩
  · cases he
  · cases hm

theorem toJson_ne_null (s : Status) : s.toJson ≠ .null := nofun

/-- A status that was read gives no field two values. -/
theorem length_values_le_one {doc : Json} {s : Status} (h : ofJson? doc = some s) :
    ∀ name ∈ names, (doc.fields.values name).length ≤ 1 := by
  cases doc with
  | null | bool _ | int _ | real _ | str _ | arr _ => exact fun _ _ => Nat.zero_le 1
  | obj fields =>
      simp only [ofJson?, Json.record?, Json.isRecord, if_true, Option.bind_eq_bind,
        Option.bind_some, Option.bind_eq_some_iff] at h
      obtain ⟨_, h₀, _, h₁, _, h₂, _, h₃, _, h₄, _, h₅, _, h₆, -⟩ := h
      simp only [names, List.forall_mem_cons, List.not_mem_nil, false_implies,
        implies_true, and_true]
      exact ⟨Json.length_values_le_one h₀, Json.length_values_le_one h₁,
        Json.length_values_le_one h₂, Json.length_values_le_one h₃, Json.length_values_le_one h₄,
        Json.length_values_le_one h₅, Json.length_values_le_one h₆⟩

variable {s : Status} {fields : Json.Fields}

/-- A field of a status that patches another. -/
theorem optional_mergeFields {α : Type} (hone : ∀ name ∈ names, (fields.values name).length ≤ 1)
    {position : Nat} {name : String} {change : Json} {read : Json → Option α} {value : Option α}
    (hname : name ∈ names) (hc : s.toJson.fields.get? name = some change)
    (hread : Json.nullable read change = some value) :
    Json.optional (.obj (mergeFields fields s.toJson.fields)) position name read = some value := by
  rw [Json.optional, Json.withDefault_mergeFields s.isFlat_toJson (hone name hname) hc, hread]
  rintro rfl
  rfl

/-- **A status that patches another reads back**, whatever else the other holds. -/
theorem ofJson?_mergeFields (hg : ∀ k ∈ s.observedGeneration, Word.HoldsSigned k)
    (hone : ∀ name ∈ names, (fields.values name).length ≤ 1) :
    ofJson? (.obj (mergeFields fields s.toJson.fields)) = some s := by
  have htext : ∀ (position : Nat) (name : String) (text : Option String), name ∈ names →
      s.toJson.fields.get? name = some (.ofText? text) →
      Json.optional (.obj (mergeFields fields s.toJson.fields)) position name Json.text? =
        some text :=
    fun _ _ text hname hc => optional_mergeFields hone hname hc (optional_ofText? text)
  have hgeneration :
      Json.optional (.obj (mergeFields fields s.toJson.fields)) 3 "observedGeneration"
        Json.int64? = some s.observedGeneration :=
    optional_mergeFields hone (by decide) rfl (optional_ofInt? hg)
  have hconditions : Json.withDefault (.obj (mergeFields fields s.toJson.fields)) 6 "conditions" []
      (Json.list? Condition.ofJson?) = some s.conditions := by
    rw [Json.withDefault_mergeFields s.isFlat_toJson (hone "conditions" (by decide)) rfl nofun]
    exact mapM_ofJson?_toJson s.conditions
  simp only [ofJson?, Json.record?, Json.isRecord, if_true, Option.bind_eq_bind, Option.bind_some,
    htext 0 "lastRotatedTime" s.lastRotatedTime (by decide) rfl,
    htext 1 "status" s.status (by decide) rfl, htext 2 "message" s.message (by decide) rfl,
    hgeneration, htext 4 "nextRotationTime" s.nextRotationTime (by decide) rfl,
    htext 5 "lastRotateRequest" s.lastRotateRequest (by decide) rfl, hconditions]

end Status

/-! ### The resource -/

namespace Resource

/-- The status that is patched gives no field of a status two values: it is none, or it was read. -/
theorem length_values_status_le_one {fields : Json.Fields} {position : Nat} {status : Option Status}
    (h : Json.optional (.obj fields) position "status" Status.ofJson? = some status) :
    ∀ name ∈ Status.names,
      ((((fields.get? "status").getD .null).fields).values name).length ≤ 1 := by
  rw [Json.optional, Json.withDefault, Json.member?_obj] at h
  rw [Json.Fields.get?_eq_head?_values]
  rcases hv : fields.values "status" with _ | ⟨old, _ | ⟨_, _⟩⟩
  · exact fun _ _ => Nat.zero_le 1
  · rw [hv] at h
    have hread : Json.nullable Status.ofJson? old = some status := h
    unfold Json.nullable at hread
    split at hread
    · exact fun _ _ => Nat.zero_le 1
    · obtain ⟨s, hs, -⟩ := Option.map_eq_some_iff.1 hread
      exact Status.length_values_le_one hs
  · rw [hv] at h
    cases h

/-- **A resource with a patched status** reads as before but for the status. -/
theorem ofJson?_merge_status {fields : Json.Fields} {r : Resource} {s : Status}
    (h : ofJson? (.obj fields) = some r) (hg : ∀ k ∈ s.observedGeneration, Word.HoldsSigned k) :
    ofJson? ((Json.obj fields).merge (.obj [("status", s.toJson)])) =
      some { r with status := some s } := by
  simp only [ofJson?, Json.record?, Json.isRecord, if_true, Option.bind_eq_bind, Option.bind_some,
    Option.bind_eq_some_iff] at h
  obtain ⟨metadata, hmetadata, spec, hspec, status, hstatus, hr⟩ := h
  obtain rfl := Option.some.inj hr
  have hold := length_values_status_le_one hstatus
  have hone := Json.length_values_le_one hstatus
  have hmerge : (Json.obj fields).merge (.obj [("status", s.toJson)]) =
      .obj (fields.set "status"
        (.obj (mergeFields ((fields.get? "status").getD .null).fields s.toJson.fields))) := by
    rw [Json.merge_field _ _ _ s.toJson_ne_null, Status.toJson, Json.merge]
    rfl
  have hpatched : Json.optional (.obj (fields.set "status"
      (.obj (mergeFields ((fields.get? "status").getD .null).fields s.toJson.fields)))) 2 "status"
      Status.ofJson? = some (some s) := by
    rw [Json.optional, Json.withDefault, Json.member?_set hone]
    exact congrArg (Option.map some) (Status.ofJson?_mergeFields hg hold)
  simp only [hmerge, ofJson?, Json.record?, Json.isRecord, if_true, Option.bind_eq_bind,
    Option.bind_some, Json.required_set_of_ne (show "status" ≠ "metadata" by decide), hmetadata,
    Json.required_set_of_ne (show "status" ≠ "spec" by decide), hspec, hpatched]

end Resource

/-! ### The patch -/

namespace StatusPatch

variable {κ : Type} {p : StatusPatch κ} {record : Record} {doc : Json} {r : Resource}

/-- The status that is written for a record. -/
def status (p : StatusPatch κ) (record : Record) : Status :=
  .ofRecord record p.generation p.schedule p.request p.previous p.stamp

/-- **What a patch restores.**  A record whose time can be read is written to the status of a
resource, and so is the time of the next attempt, if there is one.  Then the resource reads as
before, with exactly the status that was written, if and only if its document is an object; the
record and the time of the next attempt can be had from that status, and no other field of the
document has changed. -/
theorem restores_iff (hdoc : Resource.ofJson? doc = some r)
    (hg : ∀ generation ∈ p.generation, Word.HoldsSigned generation)
    (hlast : ∀ t ∈ record.rotatedAt, t.IsReadable)
    (hnext : ∀ t ∈ p.schedule.nextAttempt record p.stamp, t.IsReadable) :
    (Resource.ofJson? (doc.merge (p.change record)) =
        some { r with status := some (p.status record) } ↔
      ∃ fields, doc = .obj fields) ∧
      (p.status record).record = record ∧
      (p.status record).nextRotationTime.bind Instant.ofText? =
        p.schedule.nextAttempt record p.stamp ∧
      ∀ name, "status" ≠ name →
        (doc.merge (p.change record)).fields.values name = doc.fields.values name := by
  have hchange : p.change record = .obj [("status", (p.status record).toJson)] := rfl
  refine ⟨⟨fun h => ?_, ?_⟩, ?_, ?_, fun name hne => ?_⟩
  · cases doc with
    | obj fields => exact ⟨fields, rfl⟩
    -- a list has no fields for the patch to keep: the status is all that is left
    | arr items => cases h
    | null | bool _ | int _ | real _ | str _ => cases hdoc
  · rintro ⟨fields, rfl⟩
    exact Resource.ofJson?_merge_status hdoc hg
  · rw [status, Status.record_ofRecord, Instant.filter_of_isReadable hlast]
  · exact (Instant.bind_ofText?_map_toText _).trans (Instant.filter_of_isReadable hnext)
  · rw [hchange, Json.merge_field _ _ _ (p.status record).toJson_ne_null]
    exact (Json.Fields.values_set _ _ _ _).trans (if_neg hne)

end StatusPatch

/-! ### A specimen -/

namespace Specimen

/-- The metadata of the secret as a document. -/
def metadataDocument : Json :=
  .obj [("name", .str "orders-db"), ("namespace", .str "payments"), ("generation", .int 1)]

/-- The secret as a document, with a status that has a field of another version. -/
def staleDocument : Json :=
  .obj [("metadata", metadataDocument), ("spec", unrotated.spec.toJson),
    ("status", .obj [("phase", .obj []), ("message", .str "down"), ("observedGeneration", .null),
      ("nextRotationTime", .str "2024-06-01T08:00:30Z")])]

/-- The secret as a list of its fields. -/
def listDocument : Json := .arr [metadataDocument, unrotated.spec.toJson, .null]

/-- The status of the secret as a place for records written at eight. -/
def patch : StatusPatch Unit :=
  ⟨(), "payments", "orders-db", some 1, ⟨some 3600000000000, 30000000000, 1000000000⟩, none, none,
    clock 0⟩

end Specimen

namespace StatusPatch

/-- A rotation in a leap second is written over a status with the time of a retry. -/
theorem staleDocument_restored :
    let record : Record := .rotated ⟨1483228799, 1900000000, by decide, by decide⟩ "Secret rotated"
    let stale : Status := ⟨none, none, some "down", none, some "2024-06-01T08:00:30Z", none, []⟩
    Resource.ofJson? Specimen.staleDocument =
        some { Specimen.unrotated with status := some stale } ∧
      Resource.ofJson? (Specimen.staleDocument.merge (Specimen.patch.change record)) =
        some { Specimen.unrotated with status := some (Specimen.patch.status record) } ∧
      (Specimen.patch.status record).record = record := by
  intro record stale
  have hdoc : Resource.ofJson? Specimen.staleDocument =
      some { Specimen.unrotated with status := some stale } := by decide
  have hlast : ∀ t ∈ record.rotatedAt, t.IsReadable := by
    rintro t ⟨rfl⟩
    decide
  have hnext :
      ∀ t ∈ Specimen.patch.schedule.nextAttempt record Specimen.patch.stamp, t.IsReadable := by
    decide +kernel
  have hg : ∀ generation ∈ Specimen.patch.generation, Word.HoldsSigned generation := by
    rintro generation ⟨rfl⟩
    decide
  obtain ⟨hrestored, hrecord, -⟩ := restores_iff hdoc hg hlast hnext
  exact ⟨hdoc, hrestored.2 ⟨_, rfl⟩, hrecord⟩

/-- The list of fields is read as the same secret, but nothing can be read of it once a record was
written. -/
theorem listDocument_not_restored :
    let record : Record := .rotated (Specimen.clock 0) "Secret rotated"
    Resource.ofJson? Specimen.listDocument = some Specimen.unrotated ∧
      (∀ t ∈ record.rotatedAt, t.IsReadable) ∧
      (∀ t ∈ Specimen.patch.schedule.nextAttempt record Specimen.patch.stamp, t.IsReadable) ∧
      Resource.ofJson? (Specimen.listDocument.merge (Specimen.patch.change record)) = none := by
  decide +kernel

end StatusPatch

end CredentialRotation
