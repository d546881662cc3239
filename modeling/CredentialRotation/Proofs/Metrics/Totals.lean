import CredentialRotation.Proofs.Backoff.Calls
import CredentialRotation.Proofs.Interval.Stuck
import CredentialRotation.Proofs.Metrics.Deed

/-!
# Proofs — Metrics — Totals

What an operator has counted, set against what happened.  It is called on for any number of
resources, while store, sink and random source change as they like; its store keeps a ledger of what
it was asked for.

* `Served.booked`: one call, and what is counted and asked for in it.
* `Books.append`: the books of two runs add up.
* `Operator.books_balance`: over any run rotations, store failures and write times are those of the
  ledger, and the reasons for which resources are looked at again are one for each call that was
  answered.

A cycle that does not wait counts one rotation or one failure, unless it gets stuck on its interval:
then it counts nothing at all.
-/

namespace CredentialRotation

variable {σ π : Type}

/-! ### What is counted in a call -/

/-- How many of these counts belong to a metric. -/
def Sample.total (metric : Metric) (samples : List Sample) : Nat :=
  samples.countP (·.metric = metric)

/-- How many cycles have ended well or badly, by these counts. -/
def Sample.verdicts (samples : List Sample) : Nat :=
  total .rotations samples + total .rotationFailures samples

theorem Sample.total_append (metric : Metric) (samples samples' : List Sample) :
    total metric (samples ++ samples') = total metric samples + total metric samples' :=
  List.countP_append

namespace Served

variable [SecretStore σ] [RecordSink π]

/-- What has been counted in the call. -/
def counted (s : Served σ π) : List Sample := s.after.samples.drop s.operator.samples.length

/-- What the store was asked for in the call, and whether it took it. -/
def asked (s : Served (Ledger σ) π) : List Bool :=
  s.after.store.writes.drop s.operator.store.writes.length

/-- The call is an event that was answered. -/
def isHandled (s : Served σ π) : Bool :=
  match s.call with
  | .event _ _ => s.answer.toOption.isSome
  | .retry _ => false

omit [SecretStore σ] [RecordSink π] in
/-- Handling an event has failed before the call. -/
def isRetry (s : Served σ π) : Bool :=
  match s.call with
  | .event _ _ => false
  | .retry _ => true

omit [SecretStore σ] [RecordSink π] in
/-- The call runs a cycle, and that does not wait. -/
def Acts (s : Served σ π) : Prop :=
  ∃ resource now key course, s.call = .event resource now ∧ resource.key = .ok key ∧
    Event.course? resource now = some course ∧ ∀ wait, course ≠ .waits wait

omit [SecretStore σ] [RecordSink π] in
/-- The interval of the resource has a digit that is cut. -/
def CutsDigit (s : Served σ π) : Prop := Interval.CutsDigit s.call.resource.spec.rotationInterval

end Served

variable [SecretStore σ] [RecordSink π]

/-! ### Books -/

/-- What was counted and what the store was asked for in these calls agree. -/
structure Books (calls : List (Served (Ledger σ) π)) (samples : List Sample)
    (writes : List Bool) : Prop where
  rotations : Sample.total .rotations samples = writes.count true
  storeFailures : samples.count (.rotationFailure .storeError) = writes.count false
  writeTimes : Sample.total .storeWriteDuration samples = writes.length
  /-- One reason for each event that was answered, and one for each that was not and comes up
  again. -/
  requeues : Sample.total .requeues samples = calls.countP (·.isHandled) + calls.countP (·.isRetry)
  errors : Sample.total .reconciliationErrors samples = calls.countP (·.isRetry)

/-- Nothing has happened yet. -/
theorem Books.nil : Books (σ := σ) (π := π) [] [] [] := ⟨rfl, rfl, rfl, rfl, rfl⟩

/-- **The books of two runs add up.** -/
theorem Books.append {calls calls' : List (Served (Ledger σ) π)} {samples samples' : List Sample}
    {writes writes' : List Bool} (h : Books calls samples writes)
    (h' : Books calls' samples' writes') :
    Books (calls ++ calls') (samples ++ samples') (writes ++ writes') where
  rotations := by rw [Sample.total_append, List.count_append, h.rotations, h'.rotations]
  storeFailures := by rw [List.count_append, List.count_append, h.storeFailures, h'.storeFailures]
  writeTimes := by rw [Sample.total_append, List.length_append, h.writeTimes, h'.writeTimes]
  requeues := by
    rw [Sample.total_append, List.countP_append, List.countP_append, h.requeues, h'.requeues]
    exact Nat.add_add_add_comm _ _ _ _
  errors := by rw [Sample.total_append, List.countP_append, h.errors, h'.errors]

/-! ### One call -/

theorem Sample.total_map_requeue (metric : Metric) (reasons : List RequeueReason) :
    total metric (reasons.map .requeue) = if metric = .requeues then reasons.length else 0 := by
  unfold total
  rw [List.countP_map]
  split
  · next h =>
    subst h
    exact List.countP_eq_length.2 fun _ _ => rfl
  · next h => exact List.countP_eq_zero.2 fun _ _ he => h (of_decide_eq_true he).symm

/-- A cycle ends well or badly, and only once, unless it waits or gets stuck. -/
theorem Cycle.Deed.verdicts_samples (deed : Deed) (kind : String) (reasons : List RequeueReason) :
    Sample.verdicts (deed.samples kind ++ reasons.map .requeue) =
      if deed = .stuck ∨ deed = .waited then 0 else 1 := by
  unfold Sample.verdicts
  rw [Sample.total_append, Sample.total_append, Sample.total_map_requeue, Sample.total_map_requeue]
  cases deed <;> rfl

/-- The books of an event, where its cycle has done this. -/
theorem books_of_deed {s : Served (Ledger σ) π} (deed : Cycle.Deed) (kind : String)
    (reasons : List RequeueReason) (hretry : s.isRetry = false)
    (hreasons : reasons.length = s.isHandled.toNat) :
    Books [s] (deed.samples kind ++ reasons.map .requeue) deed.writes where
  rotations := by
    rw [Sample.total_append, Sample.total_map_requeue]
    cases deed <;> rfl
  storeFailures := by
    have hnone : (reasons.map Sample.requeue).count (.rotationFailure .storeError) = 0 :=
      List.count_eq_zero.2 (by simp)
    rw [List.count_append, hnone]
    cases deed <;> rfl
  writeTimes := by
    rw [Sample.total_append, Sample.total_map_requeue]
    cases deed <;> rfl
  requeues := by
    have hnone : Sample.total .requeues (deed.samples kind) = 0 := by cases deed <;> rfl
    rw [Sample.total_append, Sample.total_map_requeue, if_pos rfl, hnone, hreasons,
      List.countP_singleton, List.countP_singleton, hretry]
    cases s.isHandled <;> rfl
  errors := by
    rw [Sample.total_append, Sample.total_map_requeue, List.countP_singleton, hretry]
    cases deed <;> rfl

/-- How a call is entered in the books. -/
structure Booked (s : Served (Ledger σ) π) (samples : List Sample) (writes : List Bool) : Prop where
  samples_after : s.after.samples = s.operator.samples ++ samples
  writes_after : s.after.store.writes = s.operator.store.writes ++ writes
  books : Books [s] samples writes
  /-- A cycle never counts more than one rotation or failure. -/
  verdicts_le : Sample.verdicts samples ≤ 1
  verdicts_eq_one_iff : Sample.verdicts samples = 1 ↔ s.Acts ∧ ¬ s.CutsDigit
  /-- A cycle that got stuck on its interval leaves no trace. -/
  blank_of_cutsDigit : s.Acts → s.CutsDigit → samples = [] ∧ writes = []

namespace Served

variable {r : Resource} {now : Instant} {key : String} {o : Operator (Ledger σ) π}

/-- A call that runs no cycle counts no rotation and no failure, and asks nothing of the store. -/
theorem booked_of_not_acts {s : Served (Ledger σ) π} {samples : List Sample} (hacts : ¬ s.Acts)
    (hsamples : s.after.samples = s.operator.samples ++ samples)
    (hwrites : s.after.store.writes = s.operator.store.writes)
    (hbooks : Books [s] samples []) (hverdicts : Sample.verdicts samples = 0) :
    Booked s samples [] where
  samples_after := hsamples
  writes_after := by rw [hwrites, List.append_nil]
  books := hbooks
  verdicts_le := by omega
  verdicts_eq_one_iff := by
    rw [hverdicts]
    exact ⟨fun h => (nomatch h), fun h => absurd h.1 hacts⟩
  blank_of_cutsDigit := fun h => absurd h hacts

theorem booked_retry (r : Resource) (o : Operator (Ledger σ) π) :
    Booked ⟨o, .retry r⟩ [.reconciliationError, .requeue .errorBackoff] [] := by
  have hacts : ¬ (Served.mk o (.retry r)).Acts := fun ⟨_, _, _, _, hcall, _⟩ => nomatch hcall
  have hsamples : (Served.mk o (.retry r)).after.samples =
      o.samples ++ [.reconciliationError, .requeue .errorBackoff] := List.append_assoc _ _ _
  exact booked_of_not_acts hacts hsamples rfl ⟨rfl, rfl, rfl, rfl, rfl⟩ rfl

/-- An event on a resource without a name or a namespace is not handled. -/
theorem booked_of_missing {part : MissingPart} (hk : r.key = .error part) (now : Instant)
    (o : Operator (Ledger σ) π) : Booked ⟨o, .event r now⟩ [] [] := by
  have hdone : (Served.mk o (.event r now)).done = (.error (.missing part), o) :=
    Event.handle_of_missing hk now o
  have hacts : ¬ (Served.mk o (.event r now)).Acts := by
    rintro ⟨_, _, _, _, hcall, hkey, -⟩
    cases hcall
    cases hk.symm.trans hkey
  have hhandled : (Served.mk o (.event r now)).isHandled = false := by
    rw [isHandled, answer, hdone]
    rfl
  refine booked_of_not_acts hacts ?_ ?_ ?_ rfl
  · rw [after, hdone, List.append_nil]
  · rw [after, hdone]
  · exact books_of_deed .waited "" [] rfl (by rw [hhandled]; rfl)

/-- An event that runs no cycle counts the reason why. -/
theorem exists_booked_of_course?_eq_none (hk : r.key = .ok key) (hc : Event.course? r now = none)
    (o : Operator (Ledger σ) π) : ∃ reason, Booked ⟨o, .event r now⟩ [.requeue reason] [] := by
  obtain ⟨next, reason, hhandle⟩ := Event.handle_of_course?_eq_none_of_key hk hc o
  have hdone : (Served.mk o (.event r now)).done = (.ok next, o.count (.requeue reason)) := hhandle
  have hacts : ¬ (Served.mk o (.event r now)).Acts := by
    rintro ⟨_, _, _, _, hcall, -, hcourse, -⟩
    cases hcall
    cases hc.symm.trans hcourse
  have hhandled : (Served.mk o (.event r now)).isHandled = true := by
    rw [isHandled, answer, hdone]
    rfl
  refine ⟨reason, booked_of_not_acts hacts ?_ ?_ ?_ rfl⟩
  · rw [after, hdone]
    rfl
  · rw [after, hdone]
    rfl
  · exact books_of_deed .waited "" [reason] rfl (by rw [hhandled]; rfl)

omit [RecordSink π] in
/-- An event that runs a cycle acts unless the cycle waits. -/
theorem acts_iff_of_runs (hk : r.key = .ok key) (hs : r.spec.suspend = false)
    (hr : (Trigger.classify r now).runs = true) :
    (Served.mk o (.event r now)).Acts ↔ Event.deed r now o ≠ .waited := by
  unfold Event.deed
  rw [Ne, Cycle.deed_eq_waited_iff]
  constructor
  · rintro ⟨_, _, _, course, hcall, -, hcourse, hne⟩ ⟨wait, hwait⟩
    cases hcall
    obtain ⟨-, -, hc⟩ := Event.course?_eq_some_iff.1 hcourse
    exact hne wait (hc.symm.trans hwait)
  · exact fun h =>
      ⟨r, now, key, _, rfl, hk, Event.course?_of_runs hs hr, fun wait hc => h ⟨wait, hc⟩⟩

omit [RecordSink π] in
theorem cutsDigit_iff : (Served.mk o (.event r now)).CutsDigit ↔ Event.deed r now o = .stuck := by
  unfold Event.deed
  rw [Cycle.deed_eq_stuck_iff]
  exact Interval.read_eq_stuck_iff.symm

/-- An event that runs a cycle counts what the cycle does, and one reason if it is answered.  It is
not if the cycle gets stuck. -/
theorem exists_reasons_of_runs (hk : r.key = .ok key) (hs : r.spec.suspend = false)
    (hr : (Trigger.classify r now).runs = true) (o : Operator (Ledger σ) π) :
    ∃ (kind : String) (reasons : List RequeueReason), (Served.mk o (.event r now)).after.samples =
        o.samples ++ ((Event.deed r now o).samples kind ++ reasons.map .requeue) ∧
      reasons.length = (Served.mk o (.event r now)).isHandled.toNat ∧
      (Event.deed r now o = .stuck → reasons = []) := by
  have hsamples := Event.samples_of_runs hk hs hr o
  refine ⟨SecretStore.kind (Event.handle r now o).2.store, ?_⟩
  rw [isHandled, answer, done]
  cases h : (Event.handle r now o).1 with
  | ok next =>
      obtain ⟨outcome, hran, hleaves⟩ := Event.exists_outcome_of_answer hs hr h
      rw [hran] at hsamples
      refine ⟨[Event.reason outcome], hsamples, rfl, fun hstuck => ?_⟩
      rw [hstuck] at hleaves
      cases hleaves
  | error stop =>
      rw [Event.toOption_ran_of_stop hk hs hr h] at hsamples
      exact ⟨[], hsamples, rfl, fun _ => rfl⟩

/-- So it is entered in the books. -/
theorem exists_booked_of_runs (hk : r.key = .ok key) (hs : r.spec.suspend = false)
    (hr : (Trigger.classify r now).runs = true) (o : Operator (Ledger σ) π) :
    ∃ samples, Booked ⟨o, .event r now⟩ samples (Event.deed r now o).writes := by
  obtain ⟨kind, reasons, hsamples, hhandled, hblank⟩ := exists_reasons_of_runs hk hs hr o
  have hverdicts := (Event.deed r now o).verdicts_samples kind reasons
  refine ⟨_, hsamples, Event.writes_of_runs hk hs hr, books_of_deed _ _ _ rfl hhandled, ?_, ?_, ?_⟩
  · rw [hverdicts]
    split <;> decide
  · rw [hverdicts, acts_iff_of_runs hk hs hr, cutsDigit_iff]
    cases Event.deed r now o <;> simp
  · intro _ hcuts
    have hstuck := cutsDigit_iff.1 hcuts
    rw [hblank hstuck, hstuck]
    exact ⟨rfl, rfl⟩

/-- **Every call is entered in the books.** -/
theorem booked (s : Served (Ledger σ) π) : Booked s s.counted s.asked := by
  have hexists : ∃ samples writes, Booked s samples writes := by
    obtain ⟨o, call⟩ := s
    cases call with
    | retry r => exact ⟨_, _, booked_retry r o⟩
    | event r now =>
        cases hk : r.key with
        | error part => exact ⟨_, _, booked_of_missing hk now o⟩
        | ok key =>
            cases hc : Event.course? r now with
            | none =>
                obtain ⟨reason, hbooked⟩ := exists_booked_of_course?_eq_none hk hc o
                exact ⟨_, _, hbooked⟩
            | some course =>
                obtain ⟨hs, hr, -⟩ := Event.course?_eq_some_iff.1 hc
                obtain ⟨samples, hbooked⟩ := exists_booked_of_runs hk hs hr o
                exact ⟨_, _, hbooked⟩
  obtain ⟨samples, writes, hbooked⟩ := hexists
  have hcounted : s.counted = samples := by rw [counted, hbooked.samples_after, List.drop_left]
  have hasked : s.asked = writes := by rw [asked, hbooked.writes_after, List.drop_left]
  rwa [hcounted, hasked]

end Served

/-! ### Runs -/

/-- What may happen next.  Whatever changes, nothing that was counted is lost, nor anything in the
ledger. -/
inductive Incident (σ π : Type) where
  /-- The operator is called on. -/
  | call (call : Call)
  /-- The store goes on in another state. -/
  | store (store : σ)
  /-- So does what keeps the records. -/
  | sink (sink : π)
  /-- The random source is another one from now on. -/
  | entropy (entropy : Entropy)

namespace Operator

/-- The operator after one more incident. -/
def meet (o : Operator (Ledger σ) π) : Incident σ π → Operator (Ledger σ) π
  | .call call => (Served.mk o call).after
  | .store store => { o with store := { o.store with store := store } }
  | .sink sink => { o with sink := sink }
  | .entropy entropy => { o with entropy := entropy }

/-- The operator after these incidents. -/
def meetAll (o : Operator (Ledger σ) π) (incidents : List (Incident σ π)) : Operator (Ledger σ) π :=
  incidents.foldl meet o

/-- The calls among these incidents, each with what it met. -/
def calls (o : Operator (Ledger σ) π) : List (Incident σ π) → List (Served (Ledger σ) π)
  | [] => []
  | .call call :: incidents => ⟨o, call⟩ :: (o.meet (.call call)).calls incidents
  | .store store :: incidents => (o.meet (.store store)).calls incidents
  | .sink sink :: incidents => (o.meet (.sink sink)).calls incidents
  | .entropy entropy :: incidents => (o.meet (.entropy entropy)).calls incidents

/-- What was counted and asked for on the way from one operator to another. -/
structure Balances (o o' : Operator (Ledger σ) π) (calls : List (Served (Ledger σ) π)) : Prop where
  samples_eq : o'.samples = o.samples ++ calls.flatMap (·.counted)
  writes_eq : o'.store.writes = o.store.writes ++ calls.flatMap (·.asked)
  books : Books calls (calls.flatMap (·.counted)) (calls.flatMap (·.asked))

/-- One more call in front. -/
theorem Balances.cons {s : Served (Ledger σ) π} {calls : List (Served (Ledger σ) π)}
    {o' : Operator (Ledger σ) π} (h : Balances s.after o' calls) :
    Balances s.operator o' (s :: calls) where
  samples_eq := by
    rw [h.samples_eq, s.booked.samples_after, List.flatMap_cons, List.append_assoc]
  writes_eq := by
    rw [h.writes_eq, s.booked.writes_after, List.flatMap_cons, List.append_assoc]
  books := s.booked.books.append h.books

/-- **Everything that happened is accounted for.**  An operator is called on any number of times,
for any resources, while store, sink and random source change as they like.  What is counted on the
way adds up to what its calls count, the same holds of the ledger, the books of both agree, and
every call is entered in them. -/
theorem books_balance (o : Operator (Ledger σ) π) (incidents : List (Incident σ π)) :
    Balances o (o.meetAll incidents) (o.calls incidents) ∧
      ∀ s ∈ o.calls incidents, Booked s s.counted s.asked := by
  refine ⟨?_, fun s _ => s.booked⟩
  induction incidents generalizing o with
  | nil => exact ⟨(List.append_nil _).symm, (List.append_nil _).symm, .nil⟩
  | cons incident incidents ih =>
      cases incident with
      | call call => exact (ih (Served.mk o call).after).cons
      -- between calls nothing is counted, and the ledger stays
      | store store => exact { ih (o.meet (.store store)) with }
      | sink sink => exact { ih (o.meet (.sink sink)) with }
      | entropy entropy => exact { ih (o.meet (.entropy entropy)) with }

end Operator

/-! ### A specimen -/

namespace Specimen

/-- A secret whose interval has sixteen digits behind the point, fifteen of them of two bytes. -/
def halved : Resource :=
  { unrotated with spec := { unrotated.spec with
      rotationInterval := .ofList (['1', '.', '1'] ++ List.replicate 15 '\u0660' ++ ['s']) } }

/-- Byte thirty of the fraction is the first half of its last digit. -/
theorem cutsDigit_halved : Interval.CutsDigit halved.spec.rotationInterval := by
  refine ⟨[], ⟨['1'], '1' :: List.replicate 15 '\u0660', .second⟩, [], ?_⟩
  refine ⟨by decide +kernel, ?_, fun h => Interval.TimeUnit.noConfusion h, ⟨0, rfl⟩,
    ⟨1, by decide, by decide⟩, ?_⟩
  · exact List.forall_mem_singleton.2 ⟨by decide, List.all_eq_true.1 rfl, List.all_eq_true.1 rfl⟩
  · exact ⟨'1' :: List.replicate 14 '\u0660', '\u0660', [], rfl, by decide, by decide⟩

/-- A record is not kept, and a write fails. -/
def mishaps : List (Incident MemoryStore (Transcript Journal)) :=
  [.sink ⟨⟨[], some "conflict"⟩, []⟩, .call (.event unrotated (clock 0)), .call (.retry unrotated),
    .sink ⟨.blank, []⟩, .store (.blank (.fail "sealed")), .call (.event unrotated (clock 1000))]

end Specimen

namespace Operator

/-- A rotation whose record is not kept is counted, and no reason until the event comes up again.  A
cycle that gets stuck does not wait, and counts nothing. -/
theorem mishaps_counted :
    let o := Specimen.keeper .succeed 64
    let s := Served.mk (o.meetAll Specimen.mishaps) (.event Specimen.halved (Specimen.clock 2000))
    (o.calls Specimen.mishaps).map Served.counted =
        [[.storeWriteTime "memory", .rotation], [.reconciliationError, .requeue .errorBackoff],
          [.storeWriteTime "memory", .rotationFailure .storeError, .requeue .storeRetry]] ∧
      s.Acts ∧ s.counted = [] := by
  intro o s
  have hcuts : s.CutsDigit := Specimen.cutsDigit_halved
  have hread : Interval.read Specimen.halved.spec.rotationInterval = .stuck :=
    Interval.read_eq_stuck_iff.2 Specimen.cutsDigit_halved
  have hacts : s.Acts :=
    ⟨_, _, "payments/orders-db", .stuck, rfl, rfl,
      Event.course?_eq_some_iff.2 ⟨rfl, by decide +kernel, Cycle.course_eq_stuck_iff.2 hread⟩,
      fun _ h => Cycle.Course.noConfusion h⟩
  have hmem : s ∈ o.calls (Specimen.mishaps ++ [.call s.call]) :=
    .tail _ (.tail _ (.tail _ (.head _)))
  have hbooked := (books_balance o (Specimen.mishaps ++ [.call s.call])).2 s hmem
  exact ⟨by decide +kernel, hacts, (hbooked.blank_of_cutsDigit hacts hcuts).1⟩

end Operator

end CredentialRotation
