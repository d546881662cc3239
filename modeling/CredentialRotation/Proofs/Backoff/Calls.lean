import CredentialRotation.Proofs.Backoff.Bearing
import CredentialRotation.Proofs.Course.Kept
import Mathlib.Data.List.Basic

/-!
# Proofs — Backoff — Calls

The delays that a resource earns by its own failures.  An operator is *called* on for one resource
after another: an event on it is handled, or it is told that handling one failed.  All of them share
one table of failures.

* `Served.backoffs_after`: a call does to the table what it bears on its resource, and nothing else.
* `Tracks.after`: what is held against a resource is how often it has failed since it was last in
  order; that is read off the calls alone (`failures`).
* `delays_of_own_failures`: so whatever the order of the calls, the `k`-th failure of a resource in
  a row gets the `k`-th delay of a run of its own.

A resource whose name and namespace hold no slash shares its place in the table with no other.
-/

namespace CredentialRotation

variable {σ π : Type}

/-! ### Calls -/

/-- What an operator is called on for. -/
inductive Call where
  /-- An event on a resource is handled. -/
  | event (resource : Resource) (now : Instant)
  /-- Handling an event on a resource has failed. -/
  | retry (resource : Resource)

/-- The resource of the call. -/
def Call.resource : Call → Resource
  | event resource _ => resource
  | retry resource => resource

/-- The resource has a name and a namespace. -/
def Resource.IsNamed (r : Resource) : Prop :=
  ∃ scope name, r.metadata.scope = some scope ∧ r.metadata.name = some name

theorem Resource.key_of_isNamed {r : Resource} {scope name : String}
    (hscope : r.metadata.scope = some scope) (hname : r.metadata.name = some name) :
    r.key = .ok (scope ++ "/" ++ name) := by
  rw [key, hscope, hname]

/-- A key with one slash belongs to one namespace and one name. -/
theorem Resource.eq_of_key_eq {scope name scope' name' : String} (hscope : '/' ∉ scope.toList)
    (hname : '/' ∉ name.toList) (h : scope ++ "/" ++ name = scope' ++ "/" ++ name') :
    scope = scope' ∧ name = name' := by
  have hlist := congrArg String.toList h
  have hslash : "/".toList = ['/'] := by decide
  simp only [String.toList_append, List.append_assoc, hslash, List.singleton_append] at hlist
  obtain ⟨hs, -, hn⟩ := (List.append_cons_inj_of_notMem hscope hname).1 hlist
  exact ⟨String.toList_inj.1 hs, String.toList_inj.1 hn⟩

/-- A call, with the operator that it met. -/
structure Served (σ π : Type) where
  operator : Operator σ π
  call : Call

/-- What may happen next: a call, or store, sink and random source go on in another state. -/
inductive Move (σ π : Type) where
  | call (call : Call)
  | world (world : World σ π)

variable [SecretStore σ] [RecordSink π]

namespace Served

variable {s : Served σ π} {scope name key : String}

/-- How the call was answered, and the operator after it. -/
def done (s : Served σ π) : Except Event.Stop FollowUp × Operator σ π :=
  match s.call with
  | .event resource now => Event.handle resource now s.operator
  | .retry resource =>
    let (next, operator) := Event.retry resource s.operator
    (.ok next, operator)

/-- How the call was answered. -/
def answer (s : Served σ π) : Except Event.Stop FollowUp := s.done.1

/-- The operator after the call. -/
def after (s : Served σ π) : Operator σ π := s.done.2

/-- What the call bears on the failures of its resource. -/
def bearing (s : Served σ π) : Bearing :=
  match s.call with
  | .event resource now => .ofOutcome (Event.outcome? resource now s.operator)
  | .retry _ => .fails

omit [SecretStore σ] [RecordSink π] in
/-- The call was for the resource of this name in this namespace. -/
def IsOf (s : Served σ π) (scope name : String) : Prop :=
  s.call.resource.metadata.scope = some scope ∧ s.call.resource.metadata.name = some name

instance (s : Served σ π) (scope name : String) : Decidable (s.IsOf scope name) :=
  inferInstanceAs (Decidable (_ ∧ _))

/-- The event found the resource suspended, ran no cycle, or was not handled. -/
def IsQuiet (s : Served σ π) : Prop :=
  ∃ resource now, s.call = .event resource now ∧
    (resource.spec.suspend = true ∨ (Trigger.classify resource now).runs = false ∨
      ∃ stop, s.answer = .error stop)

/-- **A call does to the table what it bears** on the failures of its resource. -/
theorem backoffs_after (hk : s.call.resource.key = .ok key) :
    s.after.backoffs = s.bearing.apply key s.operator.backoffs := by
  obtain ⟨o, call⟩ := s
  cases call with
  | event resource now => exact Event.backoffs_handle hk now o
  | retry resource => exact (Event.retry_of_key hk o).2

/-- A failure is answered by the delay that was pending. -/
theorem answer_of_fails (hk : s.call.resource.key = .ok key) (h : s.bearing = .fails) :
    s.answer = .ok (.after (s.operator.backoffs.pending key)) := by
  obtain ⟨o, call⟩ := s
  cases call with
  | retry resource => exact congrArg Except.ok (Event.retry_of_key hk o).1
  | event resource now =>
      have hb : Bearing.ofOutcome (Event.outcome? resource now o) = .fails := h
      unfold Bearing.ofOutcome at hb
      split at hb
      · cases hb
      · next outcome ho =>
        split at hb
        · next hnow =>
          have ha := Event.handle_of_outcome? hk ho
          rw [Event.answer_of_isImmediate hnow] at ha
          exact ha
        · cases hb

/-- A quiet event bears nothing. -/
theorem bearing_of_isQuiet (hk : s.call.resource.key = .ok key) (h : s.IsQuiet) :
    s.bearing = .neutral := by
  obtain ⟨o, call⟩ := s
  obtain ⟨resource, now, rfl, hq⟩ := h
  have hnone : Event.outcome? resource now o = none := by
    rcases hq with hs | ht | ⟨stop, ha⟩
    · rw [Event.outcome?, if_pos hs]
    · rw [Event.outcome?, ht]
      split <;> rfl
    · cases ho : Event.outcome? resource now o with
      | none => rfl
      | some outcome => cases ha.symm.trans (Event.handle_of_outcome? hk ho)
  exact congrArg Bearing.ofOutcome hnone

end Served

/-- How often the resource has failed since it was last in order. -/
def failures (scope name : String) (calls : List (Served σ π)) : Nat :=
  ((calls.filter (·.IsOf scope name)).reverse.takeWhile (·.bearing ≠ .settles)).countP
    (·.bearing = .fails)

/-- One more call changes that as it bears, if it is for the resource, and not otherwise. -/
theorem failures_append (scope name : String) (calls : List (Served σ π)) (s : Served σ π) :
    failures scope name (calls ++ [s]) =
      if s.IsOf scope name then s.bearing.count (failures scope name calls)
      else failures scope name calls := by
  unfold failures
  rw [List.filter_append]
  split
  · next hown =>
    rw [List.filter_cons_of_pos (by simpa using hown), List.filter_nil, List.reverse_append,
      List.reverse_singleton, List.singleton_append, List.takeWhile_cons]
    cases hb : s.bearing <;> simp [hb, Bearing.count]
  · next hown =>
    rw [List.filter_cons_of_neg (by simpa using hown), List.filter_nil, List.append_nil]

/-! ### Runs -/

/-- After these calls the table holds against every resource the failures that they come to. -/
structure Tracks (first cap : Nat) (past : List (Served σ π)) (b : Backoffs) : Prop where
  first_eq : b.first = first
  cap_eq : b.cap = cap
  holds : ∀ scope name : String, '/' ∉ scope.toList → '/' ∉ name.toList →
    b.Holds (scope ++ "/" ++ name) (failures scope name past)

/-- No call has been made yet. -/
theorem tracks_blank (first cap : Nat) :
    Tracks (σ := σ) (π := π) first cap [] (.blank first cap) :=
  ⟨rfl, rfl, fun _ _ _ _ => rfl⟩

namespace Tracks

variable {first cap : Nat} {past : List (Served σ π)} {s : Served σ π}

/-- **One more call** for a named resource. -/
theorem after (h : Tracks first cap past s.operator.backoffs) (hn : s.call.resource.IsNamed) :
    Tracks first cap (past ++ [s]) s.after.backoffs := by
  obtain ⟨scope, name, hscope, hname⟩ := hn
  rw [s.backoffs_after (Resource.key_of_isNamed hscope hname)]
  obtain ⟨hfirst, hcap⟩ := s.bearing.limits_apply (scope ++ "/" ++ name) s.operator.backoffs
  refine ⟨hfirst.trans h.first_eq, hcap.trans h.cap_eq, fun scope' name' hscope' hname' => ?_⟩
  have hheld := h.holds scope' name' hscope' hname'
  rw [failures_append]
  split
  · next hown =>
    obtain rfl := Option.some.inj (hscope.symm.trans hown.1)
    obtain rfl := Option.some.inj (hname.symm.trans hown.2)
    exact s.bearing.holds_apply hheld
  · next hown =>
    refine s.bearing.holds_apply_of_ne (fun he => hown ?_) hheld
    obtain ⟨rfl, rfl⟩ := Resource.eq_of_key_eq hscope' hname' he
    exact ⟨hscope, hname⟩

end Tracks

namespace Operator

/-- The calls among these moves, each with what it met. -/
def served (o : Operator σ π) : List (Move σ π) → List (Served σ π)
  | [] => []
  | .world world :: moves => { o with toWorld := world }.served moves
  | .call call :: moves => ⟨o, call⟩ :: (Served.mk o call).after.served moves

/-- The operator after these moves. -/
def through (o : Operator σ π) : List (Move σ π) → Operator σ π
  | [] => o
  | .world world :: moves => { o with toWorld := world }.through moves
  | .call call :: moves => (Served.mk o call).after.through moves

/-- **Every call of a run finds the table as the calls before it have left it**, and so does what
comes after the run. -/
theorem tracks_served {first cap : Nat} {past : List (Served σ π)} {o : Operator σ π}
    {moves : List (Move σ π)} (h : Tracks first cap past o.backoffs)
    (hnamed : ∀ call, .call call ∈ moves → call.resource.IsNamed) :
    Tracks first cap (past ++ o.served moves) (o.through moves).backoffs ∧
      ∀ earlier s later, o.served moves = earlier ++ s :: later →
        Tracks first cap (past ++ earlier) s.operator.backoffs ∧ s.call.resource.IsNamed := by
  -- the calls of the run so far move into the past, one by one
  induction moves generalizing o past with
  | nil =>
      refine ⟨by rwa [served, List.append_nil], fun earlier s later he => ?_⟩
      exact absurd he.symm (List.append_ne_nil_of_right_ne_nil _ (List.cons_ne_nil _ _))
  | cons move moves ih =>
      have hrest : ∀ call, .call call ∈ moves → call.resource.IsNamed :=
        fun call hc => hnamed call (List.mem_cons_of_mem _ hc)
      cases move with
      | world world => exact ih (o := { o with toWorld := world }) h hrest
      | call call =>
          have hcall := hnamed call List.mem_cons_self
          have hnext := Tracks.after (s := ⟨o, call⟩) h hcall
          obtain ⟨hend, hall⟩ := ih hnext hrest
          rw [List.append_assoc] at hend
          refine ⟨hend, fun earlier s later he => ?_⟩
          cases earlier with
          | nil =>
              obtain ⟨rfl, -⟩ := List.cons.inj he
              exact ⟨by rwa [List.append_nil], hcall⟩
          | cons head earlier =>
              obtain ⟨rfl, htail⟩ := List.cons.inj he
              have hfound := hall earlier s later htail
              rwa [List.append_assoc] at hfound

/-- **The delays of a resource follow its own failures.**  An operator starts with an empty table,
and is called on for any number of named resources in any order, while store, sink and random source
change as they like.  At the end the table tells of each resource how often it has failed since it
was last in order, and on the way its `k`-th failure in a row was answered by the `k`-th delay.
Calls for other resources and quiet events leave what is known of it alone. -/
theorem delays_of_own_failures {first cap : Nat} {o : Operator σ π} {moves : List (Move σ π)}
    (hblank : o.backoffs = .blank first cap)
    (hnamed : ∀ call, .call call ∈ moves → call.resource.IsNamed)
    {scope name : String} (hscope : '/' ∉ scope.toList) (hname : '/' ∉ name.toList) :
    (o.through moves).backoffs.Tells (scope ++ "/" ++ name) first cap
        (failures scope name (o.served moves)) ∧
      ∀ earlier s later, o.served moves = earlier ++ s :: later →
        (s.IsOf scope name → s.bearing = .fails →
          s.answer = .ok (.after ((Backoff.start first cap).nth
            (failures scope name (earlier ++ [s]))))) ∧
        (¬ s.IsOf scope name ∨ s.IsQuiet →
          s.after.backoffs.get? (scope ++ "/" ++ name) =
            s.operator.backoffs.get? (scope ++ "/" ++ name)) := by
  have hstart : Tracks (σ := σ) (π := π) first cap [] o.backoffs := hblank ▸ tracks_blank first cap
  obtain ⟨hend, hall⟩ := tracks_served hstart hnamed
  refine ⟨?_, fun earlier s later he => ?_⟩
  · have htells := (hend.holds scope name hscope hname).tells
    rwa [hend.first_eq, hend.cap_eq, List.nil_append] at htells
  · obtain ⟨hmet, scope', name', hscope', hname'⟩ := hall earlier s later he
    have hk := Resource.key_of_isNamed hscope' hname'
    refine ⟨fun hown hfails => ?_, fun hquiet => ?_⟩
    · have hpending := (hmet.holds scope name hscope hname).tells.pending_eq
      rw [hmet.first_eq, hmet.cap_eq, List.nil_append] at hpending
      rw [s.answer_of_fails (Resource.key_of_isNamed hown.1 hown.2) hfails, hpending,
        failures_append, if_pos hown, hfails]
      rfl
    · rw [s.backoffs_after hk]
      -- a quiet event bears nothing on its own resource, and any call bears on no other
      by_cases hown : s.IsOf scope name
      · rw [s.bearing_of_isQuiet hk (hquiet.resolve_left (not_not_intro hown))]
        rfl
      · refine s.bearing.get?_apply_of_ne _ fun hkey => hown ?_
        obtain ⟨rfl, rfl⟩ := Resource.eq_of_key_eq hscope hname hkey
        exact ⟨hscope', hname'⟩

end Operator

/-! ### A specimen -/

namespace Specimen

/-- A secret of another namespace with the same name. -/
def namesake : Resource :=
  { unrotated with metadata := { unrotated.metadata with scope := some "billing" } }

/-- Two secrets by turns.  No password can be drawn until the second is put in order; then no record
is kept any more. -/
def alternation : List (Move MemoryStore (Transcript Journal)) :=
  [.call (.event unrotated (clock 0)),
    .call (.retry namesake), .call (.event unrotated (clock 1000)),
    .call (.event { unrotated with spec := { unrotated.spec with suspend := true } } (clock 1500)),
    .call (.retry unrotated),
    .world { (operator 0).toWorld with store := .blank .succeed },
    .call (.event namesake (clock 2000)),
    .world { (operator 0).toWorld with sink := ⟨⟨[], some "conflict"⟩, []⟩ },
    .call (.event unrotated (clock 2500))]

end Specimen

namespace Operator

/-- The first secret has failed three times in a row, at one, one and two seconds; the second is in
order. -/
theorem alternation_delays :
    let o : Operator MemoryStore (Transcript Journal) :=
      { Specimen.operator 0 with entropy := ⟨[], "exhausted"⟩ }
    (o.served Specimen.alternation).map (fun s => s.answer.toOption) =
        [some (.after 1000000000), some (.after 1000000000), some (.after 1000000000),
          some .onChange, some (.after 2000000000), some (.after 3600000000000), none] ∧
      (o.through Specimen.alternation).backoffs.Tells ("payments" ++ "/" ++ "orders-db") 1 30 3 ∧
      (o.through Specimen.alternation).backoffs.Tells ("billing" ++ "/" ++ "orders-db") 1 30 0 := by
  intro o
  have hnamed : ∀ call, .call call ∈ Specimen.alternation → call.resource.IsNamed := by
    intro call hc
    simp only [Specimen.alternation, List.mem_cons, Move.call.injEq, reduceCtorEq, List.not_mem_nil,
      false_or, or_false] at hc
    rcases hc with rfl | rfl | rfl | rfl | rfl | rfl | rfl <;> exact ⟨_, _, rfl, rfl⟩
  have hfirst : failures "payments" "orders-db" (o.served Specimen.alternation) = 3 := by
    decide +kernel
  have hsecond : failures "billing" "orders-db" (o.served Specimen.alternation) = 0 := by
    decide +kernel
  refine ⟨by decide +kernel, ?_, ?_⟩
  · rw [← hfirst]
    exact (delays_of_own_failures rfl hnamed (by decide) (by decide)).1
  · rw [← hsecond]
    exact (delays_of_own_failures rfl hnamed (by decide) (by decide)).1

end Operator

end CredentialRotation
