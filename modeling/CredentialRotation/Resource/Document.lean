import CredentialRotation.Json.Record
import CredentialRotation.Resource.Basic

/-!
# Resource — Document

Resources as JSON documents.  Reading accepts what the types of the fields allow and passes over
fields that it does not know; writing gives every field, `null` standing for one that is absent.

**Main statement.**  A status that is written reads back (`ofJson?_toJson`), up to integers that do
not fit in 64 bits.
-/

namespace CredentialRotation

namespace Metadata

/-- The annotations; `null` stands for none. -/
def annotations? : Json → Option (List (String × String))
  | .null => some []
  | .obj fields => fields.mapM fun (name, value) => value.text?.map (name, ·)
  | _ => none

/-- Read the metadata.  Four of its fields are read; all others pass unread, also where they are
ill-typed. -/
def ofJson? : Json → Option Metadata
  | .obj fields => do
    let doc := Json.obj fields
    let name ← doc.optional 0 "name" Json.text?
    let scope ← doc.optional 0 "namespace" Json.text?
    let generation ← doc.optional 0 "generation" Json.int64?
    let annotations ← doc.withDefault 0 "annotations" [] annotations?
    some ⟨name, scope, generation, annotations⟩
  | _ => none

end Metadata

namespace Spec

/-- Read a spec. -/
def ofJson? (doc : Json) : Option Spec := do
  let doc ← doc.record? 5
  let rotationInterval ← doc.required 0 ["rotationInterval"] Json.text?
  let passwordLength ← doc.withDefault 1 "passwordLength" 0 (Json.natBelow? Word.limit32)
  let includeSymbols ← doc.withDefault 2 "includeSymbols" false Json.bool?
  let storePath ← doc.required 3 ["storePath", "vaultPath"] Json.text?
  let suspend ← doc.withDefault 4 "suspend" false Json.bool?
  some ⟨rotationInterval, passwordLength, includeSymbols, storePath, suspend⟩

/-- The spec as a document. -/
def toJson (s : Spec) : Json :=
  .obj [("rotationInterval", .str s.rotationInterval), ("passwordLength", .int s.passwordLength),
    ("includeSymbols", .bool s.includeSymbols), ("storePath", .str s.storePath),
    ("suspend", .bool s.suspend)]

end Spec

namespace Condition

/-- Read a condition. -/
def ofJson? (doc : Json) : Option Condition := do
  let doc ← doc.record? 5
  let type ← doc.required 0 ["type"] Json.text?
  let status ← doc.required 1 ["status"] Json.text?
  let lastTransitionTime ← doc.optional 2 "lastTransitionTime" Json.text?
  let reason ← doc.optional 3 "reason" Json.text?
  let message ← doc.optional 4 "message" Json.text?
  some ⟨type, status, lastTransitionTime, reason, message⟩

/-- The condition as a document. -/
def toJson (c : Condition) : Json :=
  .obj [("type", .str c.type), ("status", .str c.status),
    ("lastTransitionTime", .ofText? c.lastTransitionTime), ("reason", .ofText? c.reason),
    ("message", .ofText? c.message)]

theorem ofJson?_toJson (c : Condition) : ofJson? c.toJson = some c := by
  obtain ⟨type, status, time, reason, message⟩ := c
  cases time <;> cases reason <;> cases message <;> rfl

end Condition

namespace Status

/-- Read a status. -/
def ofJson? (doc : Json) : Option Status := do
  let doc ← doc.record? 7
  let lastRotatedTime ← doc.optional 0 "lastRotatedTime" Json.text?
  let status ← doc.optional 1 "status" Json.text?
  let message ← doc.optional 2 "message" Json.text?
  let observedGeneration ← doc.optional 3 "observedGeneration" Json.int64?
  let nextRotationTime ← doc.optional 4 "nextRotationTime" Json.text?
  let lastRotateRequest ← doc.optional 5 "lastRotateRequest" Json.text?
  let conditions ← doc.withDefault 6 "conditions" [] (Json.list? Condition.ofJson?)
  some ⟨lastRotatedTime, status, message, observedGeneration, nextRotationTime, lastRotateRequest,
    conditions⟩

/-- The status as a document. -/
def toJson (s : Status) : Json :=
  .obj [("lastRotatedTime", .ofText? s.lastRotatedTime), ("status", .ofText? s.status),
    ("message", .ofText? s.message), ("observedGeneration", .ofInt? s.observedGeneration),
    ("nextRotationTime", .ofText? s.nextRotationTime),
    ("lastRotateRequest", .ofText? s.lastRotateRequest),
    ("conditions", .arr (s.conditions.map Condition.toJson))]

theorem mapM_ofJson?_toJson (conditions : List Condition) :
    (conditions.map Condition.toJson).mapM Condition.ofJson? = some conditions := by
  induction conditions with
  | nil => rfl
  | cons c rest ih => simp [List.mapM_cons, Condition.ofJson?_toJson, ih]

theorem optional_ofText? (text : Option String) :
    Json.nullable Json.text? (.ofText? text) = some text := by
  cases text <;> rfl

theorem optional_ofInt? {n : Option Int} (h : ∀ k ∈ n, Word.HoldsSigned k) :
    Json.nullable Json.int64? (.ofInt? n) = some n := by
  cases n with
  | none => rfl
  | some k => exact congrArg (Option.map some) (if_pos (h k rfl))

/-- **A status that is written reads back.** -/
theorem ofJson?_toJson {s : Status} (h : ∀ k ∈ s.observedGeneration, Word.HoldsSigned k) :
    ofJson? s.toJson = some s := by
  have hc := mapM_ofJson?_toJson s.conditions
  have hg := optional_ofInt? h
  simp [ofJson?, toJson, Json.record?, Json.isRecord, Json.optional, Json.withDefault, Json.member?,
    optional_ofText?, hg, Json.list?, hc]

end Status

namespace Resource

/-- Read a resource. -/
def ofJson? (doc : Json) : Option Resource := do
  let doc ← doc.record? 3
  let metadata ← doc.required 0 ["metadata"] Metadata.ofJson?
  let spec ← doc.required 1 ["spec"] Spec.ofJson?
  let status ← match doc with
    | .arr _ => doc.required 2 ["status"] (Json.nullable Status.ofJson?)
    | _ => doc.optional 2 "status" Status.ofJson?
  some ⟨metadata, spec, status⟩

end Resource

end CredentialRotation
