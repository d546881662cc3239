import CredentialRotation.Proofs.Course.Echo
import CredentialRotation.Proofs.Course.Kept
import CredentialRotation.Proofs.Secrecy.Event
import CredentialRotation.Reconcile

/-!
# Proofs — Secrecy — Fleet

What a run shows of its passwords.  An operator looks after a fleet of resources: events on them are
handled and their records written to the status, failed events are retried, and in between the
resources are edited and the store and the place for records change.

**Main statement** (`passwords_show_in_store_only`).  Two runs that start alike and draw all their
passwords, though from different random sources, report the same at every turn.  At the end nothing
but the stores and the random sources differs.
-/

namespace CredentialRotation

variable {σ π ι : Type}

/-! ### Fleets -/

/-- Resources, and the operator that looks after all of them. -/
structure Fleet (ι σ π : Type) where
  resource : ι → Resource
  operator : Operator σ (Transcript π)

namespace Fleet

/-- What may happen next. -/
inductive Turn (ι σ π : Type) where
  /-- An event on a resource is handled at `now`; the record that it leaves is written to the status
  at `stamp`. -/
  | event (i : ι) (now stamp : Instant)
  /-- The operator is told that handling an event failed. -/
  | retry (i : ι)
  /-- A resource is edited. -/
  | edit (i : ι) (change : Resource → Resource)
  /-- The store goes on in another state. -/
  | store (change : σ → σ)
  /-- The place where records are kept does. -/
  | sink (change : π → π)

/-- A change of the store keeps related stores related. -/
def Turn.Keeps (R : σ → σ → Prop) : Turn ι σ π → Prop
  | store change => ∀ s s', R s s' → R (change s) (change s')
  | event _ _ _ | retry _ | edit _ _ | sink _ => True

/-- What can be seen of an event or of a failed one. -/
structure Report where
  /-- What the event called for. -/
  trigger : Option Trigger
  /-- How it was answered, or why it was not. -/
  answer : Except Event.Stop FollowUp
  /-- The record that was kept. -/
  kept : Option Record
  /-- The status of the resource afterwards. -/
  status : Option Status
  /-- What is held against the resources afterwards. -/
  backoffs : Backoffs
  /-- All that has been counted so far. -/
  samples : List Sample

/-- An event, with the fleet that it met. -/
structure Visit (ι σ π : Type) extends Fleet ι σ π where
  i : ι
  now : Instant
  stamp : Instant

variable [DecidableEq ι]

/-- The fleet, with another resource in one place. -/
def set (f : Fleet ι σ π) (i : ι) (r : Resource) : Fleet ι σ π :=
  { f with resource := fun j => if j = i then r else f.resource j }

variable [SecretStore σ] [RecordSink π]

namespace Visit

/-- The resource of the event. -/
def own (v : Visit ι σ π) : Resource := v.resource v.i

/-- What became of the event, and of the operator. -/
def handled (v : Visit ι σ π) : Except Event.Stop FollowUp × Operator σ (Transcript π) :=
  Event.handle v.own v.now v.operator

/-- The record that was kept, if one was. -/
def kept? (v : Visit ι σ π) : Option Record :=
  (v.handled.2.sink.taken.drop v.operator.sink.taken.length).head?

/-- When the next attempt is due after the event. -/
def schedule? (v : Visit ι σ π) : Option Schedule :=
  v.own.key.toOption.bind fun key => Reconcile.schedule? v.own key v.operator

/-- The resource after the event: a record that was kept is written to its status. -/
def left (v : Visit ι σ π) : Resource :=
  match v.kept?, v.schedule? with
  | some record, some schedule => v.own.recorded record schedule v.stamp
  | _, _ => v.own

/-- The fleet after the event. -/
def after (v : Visit ι σ π) : Fleet ι σ π :=
  ({ v with operator := v.handled.2 } : Fleet ι σ π).set v.i v.left

/-- What can be seen of the event. -/
def report (v : Visit ι σ π) : Report where
  trigger := some (Trigger.classify v.own v.now)
  answer := v.handled.1
  kept := v.kept?
  status := v.left.status
  backoffs := v.handled.2.backoffs
  samples := v.handled.2.samples

/-- Where the event comes to an attempt, a password can be drawn. -/
def Draws (v : Visit ι σ π) : Prop :=
  Event.Attempts v.own v.now → v.operator.entropy.Suffices v.own.spec.policy

end Visit

/-- The fleet after a failed event on one of its resources. -/
def retried (f : Fleet ι σ π) (i : ι) : Fleet ι σ π :=
  { f with operator := (Event.retry (f.resource i) f.operator).2 }

/-- What can be seen of a failed event. -/
def retryReport (f : Fleet ι σ π) (i : ι) : Report where
  trigger := none
  answer := .ok (Event.retry (f.resource i) f.operator).1
  kept := none
  status := (f.resource i).status
  backoffs := (f.retried i).operator.backoffs
  samples := (f.retried i).operator.samples

/-- The fleet after one more turn. -/
def step (f : Fleet ι σ π) : Turn ι σ π → Fleet ι σ π
  | .event i now stamp => (Visit.mk f i now stamp).after
  | .retry i => f.retried i
  | .edit i change => f.set i (change (f.resource i))
  | .store change => { f with operator.store := change f.operator.store }
  | .sink change => { f with operator.sink.sink := change f.operator.sink.sink }

/-- What can be seen of a turn. -/
def report? (f : Fleet ι σ π) : Turn ι σ π → Option Report
  | .event i now stamp => some (Visit.mk f i now stamp).report
  | .retry i => some (f.retryReport i)
  | .edit _ _ | .store _ | .sink _ => none

/-- The fleet after these turns. -/
def through (f : Fleet ι σ π) (turns : List (Turn ι σ π)) : Fleet ι σ π := turns.foldl step f

/-- What can be seen of these turns. -/
def reports (f : Fleet ι σ π) : List (Turn ι σ π) → List Report
  | [] => []
  | turn :: turns => (f.report? turn).toList ++ (f.step turn).reports turns

/-- The event of a turn, with what it met. -/
def visit? (f : Fleet ι σ π) : Turn ι σ π → Option (Visit ι σ π)
  | .event i now stamp => some ⟨f, i, now, stamp⟩
  | .retry _ | .edit _ _ | .store _ | .sink _ => none

/-- The events among these turns, each with what it met. -/
def visits (f : Fleet ι σ π) : List (Turn ι σ π) → List (Visit ι σ π)
  | [] => []
  | turn :: turns => (f.visit? turn).toList ++ (f.step turn).visits turns

/-- The fleets have the same resources, and operators that are alike. -/
structure Alike (R : σ → σ → Prop) (f f' : Fleet ι σ π) : Prop where
  resource : f.resource = f'.resource
  operator : f.operator.Alike R f'.operator

variable {R : σ → σ → Prop} {f f' : Fleet ι σ π}

omit [SecretStore σ] [RecordSink π] in
theorem Alike.set (h : f.Alike R f') (i : ι) (r : Resource) : (f.set i r).Alike R (f'.set i r) := by
  refine ⟨?_, h.operator⟩
  funext j
  rw [Fleet.set, Fleet.set, h.resource]

/-- **An event shows nothing of a password**, and neither does the fleet after it. -/
theorem visit_agree (hR : SecretStore.Conceals R) (h : f.Alike R f') (i : ι) (now stamp : Instant)
    (hdraw : (Visit.mk f i now stamp).Draws) (hdraw' : (Visit.mk f' i now stamp).Draws) :
    (Visit.mk f i now stamp).report = (Visit.mk f' i now stamp).report ∧
      (Visit.mk f i now stamp).after.Alike R (Visit.mk f' i now stamp).after := by
  have hown : (Visit.mk f i now stamp).own = (Visit.mk f' i now stamp).own := congrFun h.resource i
  obtain ⟨hanswer, hafter⟩ : Agree (Operator.Alike R) (Visit.mk f i now stamp).handled
      (Visit.mk f' i now stamp).handled := by
    rw [Visit.handled, Visit.handled, ← hown]
    refine Event.handle_agree hR h.operator fun hattempts => ⟨hdraw hattempts, ?_⟩
    have hsecond := hdraw' (hown ▸ hattempts)
    rwa [← hown] at hsecond
  have hkept : (Visit.mk f i now stamp).kept? = (Visit.mk f' i now stamp).kept? := by
    rw [Visit.kept?, Visit.kept?, hafter.world.sink, h.operator.world.sink]
  have hschedule : (Visit.mk f i now stamp).schedule? = (Visit.mk f' i now stamp).schedule? := by
    simp only [Visit.schedule?, Reconcile.schedule?, hown, h.operator.storeRetry,
      h.operator.backoffs]
  have hleft : (Visit.mk f i now stamp).left = (Visit.mk f' i now stamp).left := by
    rw [Visit.left, Visit.left, hkept, hschedule, hown]
  refine ⟨?_, ?_⟩
  · rw [Visit.report, Visit.report, hown, hanswer, hkept, hleft, hafter.backoffs,
      hafter.world.samples]
  · have hmet : ({ f with operator := (Visit.mk f i now stamp).handled.2 } : Fleet ι σ π).Alike R
        { f' with operator := (Visit.mk f' i now stamp).handled.2 } := ⟨h.resource, hafter⟩
    rw [Visit.after, Visit.after, hleft]
    exact hmet.set i _

omit [SecretStore σ] [RecordSink π] [DecidableEq ι] in
theorem retry_agree (h : f.Alike R f') (i : ι) :
    f.retryReport i = f'.retryReport i ∧ (f.retried i).Alike R (f'.retried i) := by
  have hown : f.resource i = f'.resource i := congrFun h.resource i
  obtain ⟨hnext, hafter⟩ := Event.retry_agree h.operator (f.resource i)
  have hretried : (f.retried i).Alike R (f'.retried i) := by
    rw [retried, retried, ← hown]
    exact ⟨h.resource, hafter⟩
  refine ⟨?_, hretried⟩
  rw [retryReport, retryReport, ← hown, hnext, hretried.operator.backoffs,
    hretried.operator.world.samples]

/-- **One turn.** -/
theorem step_agree (hR : SecretStore.Conceals R) (h : f.Alike R f') {turn : Turn ι σ π}
    (hkeeps : turn.Keeps R) (hdraw : ∀ v ∈ f.visit? turn, v.Draws)
    (hdraw' : ∀ v ∈ f'.visit? turn, v.Draws) :
    f.report? turn = f'.report? turn ∧ (f.step turn).Alike R (f'.step turn) := by
  obtain ⟨⟨hstore, hsink, hsamples⟩, hbackoffs, hretry⟩ := h.operator
  cases turn with
  | event i now stamp =>
      obtain ⟨hreport, hafter⟩ := visit_agree hR h i now stamp (hdraw _ rfl) (hdraw' _ rfl)
      exact ⟨congrArg some hreport, hafter⟩
  | retry i =>
      obtain ⟨hreport, hafter⟩ := retry_agree h i
      exact ⟨congrArg some hreport, hafter⟩
  | edit i change =>
      refine ⟨rfl, ?_⟩
      rw [step, step, ← h.resource]
      exact h.set i _
  | store change =>
      exact ⟨rfl, h.resource, ⟨hkeeps _ _ hstore, hsink, hsamples⟩, hbackoffs, hretry⟩
  | sink change =>
      have hchanged :=
        congrArg (fun t : Transcript π => (⟨change t.sink, t.taken⟩ : Transcript π)) hsink
      exact ⟨rfl, h.resource, ⟨hstore, hchanged, hsamples⟩, hbackoffs, hretry⟩

/-- **Whatever is done with a fleet, its passwords show in the store only.**  Two runs start alike,
up to stores that conceal the secrets, and in both a password can be drawn wherever an event comes
to an attempt.  However their random sources differ, the same is reported of both, turn by turn:
what events called for, how they were answered and why they were not, what records were kept and
written to which status, what is held against the resources, and what has been counted.  At the end
the fleets are alike again. -/
theorem passwords_show_in_store_only (hR : SecretStore.Conceals R) (h : f.Alike R f')
    {turns : List (Turn ι σ π)} (hkeeps : ∀ turn ∈ turns, turn.Keeps R)
    (hdraw : ∀ v ∈ f.visits turns, v.Draws) (hdraw' : ∀ v ∈ f'.visits turns, v.Draws) :
    f.reports turns = f'.reports turns ∧ (f.through turns).Alike R (f'.through turns) := by
  induction turns generalizing f f' with
  | nil => exact ⟨rfl, h⟩
  | cons turn turns ih =>
      obtain ⟨hturn, hrest⟩ := List.forall_mem_cons.1 hkeeps
      simp only [visits, List.forall_mem_append, Option.mem_toList] at hdraw hdraw'
      obtain ⟨hreport, hstep⟩ := step_agree hR h hturn hdraw.1 hdraw'.1
      obtain ⟨hreports, hend⟩ := ih hstep hrest hdraw.2 hdraw'.2
      refine ⟨?_, hend⟩
      rw [reports, reports, hreport, hreports]

end Fleet

/-! ### A specimen -/

namespace Specimen

/-- Two secrets, the one for orders and another one for invoices. -/
def pair (orders : Bool) : Resource :=
  if orders then unrotated
  else { unrotated with
    metadata := { unrotated.metadata with name := some "invoices-db" }
    spec := { unrotated.spec with storePath := "secret/data/invoices" } }

/-- An operator for both, whose store is down at first and whose random source always answers
this. -/
def steady (answer : Fin Word.limit32) : Fleet Bool MemoryStore Journal where
  resource := pair
  operator := { operator 30000000000 with
    entropy := ⟨List.replicate 64 (.ok answer), "exhausted"⟩
    store := .blank (.failTimes 1) }

/-- The first write fails, the next record is not kept, and the first secret is rotated half a
minute later and once more when that is asked for. -/
def forenoon : List (Fleet.Turn Bool MemoryStore Journal) :=
  [.event true (clock 0) (clock 0), .sink ({ · with failure := some "conflict" }),
    .event false (clock 1000) (clock 1000), .retry false, .sink ({ · with failure := none }),
    .event true (clock 30000) (clock 30001),
    .edit true fun r => { r with metadata := requested.metadata },
    .event true (clock 40000) (clock 40000)]

end Specimen

/-- It can be computed that a run draws all its passwords. -/
theorem Fleet.draws_of_all {f : Fleet Bool MemoryStore Journal}
    {turns : List (Fleet.Turn Bool MemoryStore Journal)}
    (h : (f.visits turns).all (fun v => (Password.draw (.standard v.own.spec.policy.includeSymbols)
      v.own.spec.policy.effectiveLength v.operator.entropy).1.toOption.isSome) = true) :
    ∀ v ∈ f.visits turns, v.Draws := by
  intro v hv _
  obtain ⟨secret, hsecret⟩ := Option.isSome_iff_exists.1 (List.all_eq_true.1 h v hv)
  exact ⟨secret, _, Prod.ext (Specimen.eq_ok_of_toOption hsecret) rfl⟩

/-- Two forenoons with different passwords, of which the same is reported. -/
theorem Fleet.forenoon_shows_in_store_only :
    ((Specimen.steady ⟨0, by decide⟩).through Specimen.forenoon).operator.store.value?
          "secret/data/orders" ≠
        ((Specimen.steady ⟨1, by decide⟩).through Specimen.forenoon).operator.store.value?
          "secret/data/orders" ∧
      (Specimen.steady ⟨0, by decide⟩).reports Specimen.forenoon =
        (Specimen.steady ⟨1, by decide⟩).reports Specimen.forenoon ∧
      ((Specimen.steady ⟨0, by decide⟩).reports Specimen.forenoon).map
          (fun r => r.kept.bind (·.phase)) =
        [some .storeError, none, none, some .ready, some .ready] := by
  have hstart : (Specimen.steady ⟨0, by decide⟩).Alike MemoryStore.SameButValues
      (Specimen.steady ⟨1, by decide⟩) :=
    ⟨rfl, ⟨⟨rfl, rfl, rfl, fun _ => rfl⟩, rfl, rfl⟩, rfl, rfl⟩
  have hkeeps : ∀ turn ∈ Specimen.forenoon, turn.Keeps MemoryStore.SameButValues := by
    simp [Specimen.forenoon, Turn.Keeps]
  have hdraw : ∀ v ∈ (Specimen.steady ⟨0, by decide⟩).visits Specimen.forenoon, v.Draws :=
    draws_of_all (by decide +kernel)
  have hdraw' : ∀ v ∈ (Specimen.steady ⟨1, by decide⟩).visits Specimen.forenoon, v.Draws :=
    draws_of_all (by decide +kernel)
  refine ⟨by decide +kernel, ?_, by decide +kernel⟩
  exact (passwords_show_in_store_only MemoryStore.conceals hstart hkeeps hdraw hdraw').1

end CredentialRotation
