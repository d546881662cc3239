import CredentialRotation.Failure
import CredentialRotation.Record.Basic

/-!
# Record — Sink

Where records go, so that the next cycle finds them.  `RecordSink` is the operation; `Journal` keeps
the records in memory and can be told to fail.
-/

namespace CredentialRotation

/-- A place where records are kept. -/
class RecordSink (α : Type) where
  /-- Keep a record. -/
  put : α → Record → Except Failure Unit × α

/-- Every record kept so far, the oldest first. -/
structure Journal where
  records : List Record
  /-- Why no record is taken, if none is. -/
  failure : Option String
  deriving DecidableEq, Repr

namespace Journal

/-- A journal that takes records and has none yet. -/
def blank : Journal := ⟨[], none⟩

/-- Keep a record, unless the journal fails. -/
def put (j : Journal) (r : Record) : Except Failure Unit × Journal :=
  match j.failure with
  | none => (.ok (), { j with records := j.records ++ [r] })
  | some reason => (.error (.root ("status update rejected: " ++ reason)), j)

instance : RecordSink Journal := ⟨put⟩

/-- The journal keeps the record as its latest, or it stays as it is. -/
theorem put_cases (j : Journal) (r : Record) :
    RecordSink.put j r = (.ok (), { j with records := j.records ++ [r] }) ∨
      ∃ reason, RecordSink.put j r = (.error reason, j) := by
  cases hf : j.failure with
  | none =>
      refine .inl ?_
      change j.put r = _
      rw [put, hf]
  | some reason =>
      refine .inr ⟨.root ("status update rejected: " ++ reason), ?_⟩
      change j.put r = _
      rw [put, hf]

end Journal

end CredentialRotation
