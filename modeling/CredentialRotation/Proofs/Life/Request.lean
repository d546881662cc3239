import CredentialRotation.Proofs.Life.Basic

/-!
# Proofs — Life — Request

A rotation that is asked for out of turn.  The request stands in an annotation, and the status holds
the request that was last acted on; the two are compared at every event
(`Trigger.classify_eq_manual_iff`).  A record that is kept writes down the request that the resource
held (`answered_after_of_kept?`), and nothing else does.

**Main statement** (`request_answered_once`).  As long as the resource holds a request, it is not
lost: until a record is kept, every event forces a cycle unless the resource is suspended.  And it
is not acted on again: once a record was kept, no event forces a cycle any more.
-/

namespace CredentialRotation

variable {σ π : Type}

namespace Trigger

variable {r : Resource} {now : Instant}

theorem ofTime_ne_manual (next now : Instant) : ofTime next now ≠ manual := by
  unfold ofTime
  split <;> exact nofun

theorem ofStatus_ne_manual (s : Status) (now : Instant) : ofStatus s now ≠ manual := by
  unfold ofStatus
  split
  · exact ofTime_ne_manual _ _
  · split <;> exact nofun

/-- An event forces a cycle exactly if a request stands that was not acted on, whatever time the
status names. -/
theorem classify_eq_manual_iff : classify r now = manual ↔ isRequested r = true := by
  unfold classify
  split
  · next h => exact ⟨fun _ => h, fun _ => rfl⟩
  · next h =>
    refine ⟨fun hm => ?_, fun hr => absurd hr h⟩
    split at hm
    · cases hm
    · split at hm
      · exact absurd hm (ofStatus_ne_manual _ _)
      · cases hm

/-- A request stands as long as it is not the one that was last acted on. -/
theorem classify_eq_manual_iff_of_rotateRequest {request : String}
    (h : r.rotateRequest = some request) :
    classify r now = manual ↔ answered r ≠ some request := by
  rw [classify_eq_manual_iff, isRequested, h, Option.isSome_some, Bool.true_and, bne_iff_ne]

end Trigger

/-- An event that forces a cycle runs it. -/
theorem Event.handle_of_manual [SecretStore σ] [RecordSink π] {r : Resource} {now : Instant}
    {key : String} (hk : r.key = .ok key) (hs : r.spec.suspend = false)
    (hm : Trigger.classify r now = .manual) (o : Operator σ π) :
    handle r now o = runCycle r key now true o := by
  unfold handle
  rw [hk, hs, hm]
  rfl

/-- No record is handed over for a resource that is suspended. -/
theorem Event.Hands.suspend_eq_false {r : Resource} {now : Instant} {wrote : Option Bool}
    {record : Record} (h : Hands r now wrote record) : r.spec.suspend = false := by
  cases h with
  | refused hc => exact (course?_eq_some_iff.1 hc).1
  | undrawn hc => exact (course?_eq_some_iff.1 hc).1
  | unwritten hc => exact (course?_eq_some_iff.1 hc).1
  | rotated hc => exact (course?_eq_some_iff.1 hc).1

/-- A list in which no two entries have a property has at most one that has it. -/
theorem countP_le_one_of_pairwise {α : Type} {p : α → Bool} {xs : List α}
    (h : xs.Pairwise fun a b => p a = true → p b = false) : xs.countP p ≤ 1 := by
  induction h with
  | nil => exact Nat.zero_le 1
  | @cons a xs hfirst _ ih =>
      cases hp : p a with
      | false =>
          rw [List.countP_cons_of_neg (by rw [hp]; exact nofun)]
          exact ih
      | true =>
          have hnone : xs.countP p = 0 :=
            List.countP_eq_zero.2 fun b hb => by rw [hfirst b hb hp]; exact nofun
          have hone : (a :: xs).countP p = 1 := by rw [List.countP_cons_of_pos hp, hnone]
          exact Nat.le_of_eq hone

variable [SecretStore σ] [RecordSink π]

namespace Occurrence

variable {e : Occurrence σ π}

/-- The event runs a cycle that does not wait for the interval to be over. -/
def isForced (e : Occurrence σ π) : Bool := !e.resource.spec.suspend && e.trigger = .manual

/-- A suspended resource leaves no record. -/
theorem kept?_of_suspend (h : e.resource.spec.suspend = true) : e.kept? = none := by
  cases hk : e.kept? with
  | none => rfl
  | some record => cases h.symm.trans (hands_of_kept? hk).suspend_eq_false

/-- Without a record, the request that was last acted on stays the same. -/
theorem answered_after_of_none (h : e.kept? = none) :
    Trigger.answered e.after.resource = Trigger.answered e.resource := by
  rw [resource_after_of_none h]

/-- With a record, the request that the resource holds has been acted on. -/
theorem answered_after_of_kept? (h : e.kept? ≠ none) :
    Trigger.answered e.after.resource = e.resource.rotateRequest := by
  obtain ⟨record, hrecord⟩ := Option.ne_none_iff_exists'.1 h
  rw [resource_after_of_some hrecord]
  rfl

end Occurrence

namespace Life

variable {l : Life σ π} {turns : List (Turn σ π)} {request : String}

/-- Until a record is kept, the request that was last acted on stays the same. -/
theorem answered_through_of_none (h : ∀ e ∈ l.occurrences turns, e.kept? = none) :
    Trigger.answered (l.through turns).resource = Trigger.answered l.resource :=
  (status_through
    (P := fun status => status.bind Status.lastRotateRequest = Trigger.answered l.resource)
    (fun e he hsame => (Occurrence.answered_after_of_none (h e he)).trans hsame) rfl).2

/-- **A request that was acted on stays answered** for as long as the resource holds it. -/
theorem answered_of_answered
    (hheld : ∀ e ∈ l.occurrences turns, e.resource.rotateRequest = some request)
    (h : Trigger.answered l.resource = some request) :
    ∀ e ∈ l.occurrences turns, Trigger.answered e.resource = some request := by
  refine (status_through (P := fun status => status.bind Status.lastRotateRequest = some request)
    (fun e he hsame => ?_) h).1
  by_cases hk : e.kept? = none
  · exact (Occurrence.answered_after_of_none hk).trans hsame
  · exact (Occurrence.answered_after_of_kept? hk).trans (hheld e he)

/-- **After a record no event forces a cycle**, for as long as the resource holds its request. -/
theorem pairwise_answered
    (hheld : ∀ e ∈ l.occurrences turns, e.resource.rotateRequest = some request) :
    (l.occurrences turns).Pairwise fun e e' =>
      e.kept? ≠ none → Trigger.answered e'.resource = some request ∧ e'.trigger ≠ .manual := by
  induction turns generalizing l with
  | nil => exact .nil
  | cons turn turns ih =>
      cases turn with
      | edit metadata spec => exact ih hheld
      | operator operator => exact ih hheld
      | event occasion =>
          obtain ⟨hfirst, hrest⟩ := List.forall_mem_cons.1 hheld
          refine .cons (fun e' he' hk => ?_) (ih hrest)
          have hanswered := (Occurrence.answered_after_of_kept? hk).trans hfirst
          have hlater := answered_of_answered hrest hanswered e' he'
          refine ⟨hlater, fun hm => ?_⟩
          exact (Trigger.classify_eq_manual_iff_of_rotateRequest (hrest e' he')).1 hm hlater

/-- **A request is neither lost nor acted on twice.**  Every event of a run found the resource with
a name, a namespace and the same request.

* An event that finds the request not acted on forces a cycle, unless the resource is suspended.
* An event on a suspended resource, or one whose record was not kept, leaves it as it was, and so
  does everything that happens before the first record.
* A record that is kept writes the request down, and from then on it has been acted on and no event
  forces a cycle.  So at most one forced cycle leaves a record. -/
theorem request_answered_once {start : Life σ π} {turns : List (Turn σ π)} {request : String}
    (hkey : ∀ e ∈ start.occurrences turns, ∃ key, e.resource.key = .ok key)
    (hheld : ∀ e ∈ start.occurrences turns, e.resource.rotateRequest = some request) :
    (∀ e ∈ start.occurrences turns, e.resource.spec.suspend = false →
      Trigger.answered e.resource ≠ some request →
        e.isForced = true ∧ ∃ key, e.resource.key = .ok key ∧
          e.handled = Event.runCycle e.resource key e.now true e.operator) ∧
    (∀ e ∈ start.occurrences turns, e.resource.spec.suspend = true ∨ e.kept? = none →
      Trigger.answered e.after.resource = Trigger.answered e.resource) ∧
    (∀ earlier e later, start.occurrences turns = earlier ++ e :: later →
      (∀ e' ∈ earlier, e'.kept? = none) →
        Trigger.answered e.resource = Trigger.answered start.resource) ∧
    (∀ e ∈ start.occurrences turns, e.kept? ≠ none →
      Trigger.answered e.after.resource = some request) ∧
    (start.occurrences turns).Pairwise (fun e e' =>
      e.kept? ≠ none → Trigger.answered e'.resource = some request ∧ e'.trigger ≠ .manual) ∧
    (start.occurrences turns).countP (fun e => e.isForced && e.kept?.isSome) ≤ 1 := by
  refine ⟨fun e he hs hopen => ?_, fun e he hno => ?_, fun earlier e later hrun hnone => ?_,
    fun e he hk => ?_, pairwise_answered hheld, ?_⟩
  · obtain ⟨key, hk⟩ := hkey e he
    have hmanual : e.trigger = .manual :=
      (Trigger.classify_eq_manual_iff_of_rotateRequest (hheld e he)).2 hopen
    refine ⟨?_, key, hk, Event.handle_of_manual hk hs hmanual e.operator⟩
    rw [Occurrence.isForced, hs, hmanual]
    rfl
  · exact Occurrence.answered_after_of_none (hno.elim Occurrence.kept?_of_suspend id)
  · obtain ⟨before, -, -, hbefore, hlife, -⟩ := exists_turns_of_occurrences_eq hrun
    rw [hlife]
    exact answered_through_of_none (hbefore ▸ hnone)
  · exact (Occurrence.answered_after_of_kept? hk).trans (hheld e he)
  · refine countP_le_one_of_pairwise ((pairwise_answered hheld).imp fun {e e'} h hboth => ?_)
    rw [Bool.and_eq_true] at hboth
    have hkept : e.kept? ≠ none := by
      intro hnone
      rw [hnone] at hboth
      cases hboth.2
    rw [Occurrence.isForced, decide_eq_false (h hkept).2, Bool.and_false, Bool.false_and]

/-- A rotation was asked for, but at first the resource is suspended and then no record is kept.  At
six past eight the store is down; what follows is not forced. -/
def suspendedRequest : List (Turn MemoryStore Journal) :=
  [.edit Specimen.requested.metadata { Specimen.requested.spec with suspend := true },
    .event (Specimen.occasion 300000), .edit Specimen.requested.metadata Specimen.requested.spec,
    .operator { Specimen.keeper .succeed 16 with sink := ⟨⟨[], some "conflict"⟩, []⟩ },
    .event (Specimen.occasion 330000), .operator (Specimen.keeper (.fail "down") 16),
    .event (Specimen.occasion 360000), .event (Specimen.occasion 370000),
    .event (Specimen.occasion 390000)]

/-- The request is acted on at six past eight, where the record is kept, and not again. -/
theorem suspendedRequest_answered_once :
    ((mk Specimen.requested (Specimen.keeper .succeed 16)).occurrences suspendedRequest).map
        (fun e => (e.isForced, e.written?, e.kept?.bind Record.phase)) =
      [(false, none, none), (true, some true, none), (true, some false, some .storeError),
        (false, none, none), (false, none, none)] ∧
    ((mk Specimen.requested (Specimen.keeper .succeed 16)).occurrences suspendedRequest).countP
      (fun e => e.isForced && e.kept?.isSome) ≤ 1 := by
  have hkey :
      ∀ e ∈ (mk Specimen.requested (Specimen.keeper .succeed 16)).occurrences suspendedRequest,
        e.resource.key.toOption = some "payments/orders-db" := by
    decide +kernel
  have hheld :
      ∀ e ∈ (mk Specimen.requested (Specimen.keeper .succeed 16)).occurrences suspendedRequest,
        e.resource.rotateRequest = some "r1" := by
    decide +kernel
  obtain ⟨-, -, -, -, -, honce⟩ :=
    request_answered_once (fun e he => ⟨_, Specimen.eq_ok_of_toOption (hkey e he)⟩) hheld
  exact ⟨by decide +kernel, honce⟩

end Life

end CredentialRotation
