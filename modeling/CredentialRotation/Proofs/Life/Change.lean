import CredentialRotation.Proofs.Course.Scheduled
import CredentialRotation.Proofs.Life.Basic

/-!
# Proofs — Life — Change

When a resource waits for a change.  An event waits for one on the word of the status: it says that
the policy was malformed, and for which version of the spec.  A status may be older than the spec,
since an event that waits writes none; what keeps it from being believed then is that every version
of the spec has a number of its own (`Life.IsNumbered`).

* `Event.answers_of_handle`: what an event that was answered found.
* `Life.Observed`: the status was written for some version of the spec, and if that is the present
  one, it tells whether the spec is malformed.  Every turn keeps this (`observed_edit`,
  `observed_after`).

**Main statement** (`awaits_change_iff_halted`).  In a run that starts without a status, an event is
answered by a wait for a change exactly if the spec is suspended or malformed, and by a delay
otherwise.
-/

namespace CredentialRotation

variable {σ π : Type}

/-- The interval of the spec is none. -/
def Spec.IsMalformed (s : Spec) : Prop :=
  ∃ reason, Interval.read s.rotationInterval = .refused reason

/-- Nothing is to be done before the spec changes. -/
def Spec.IsHalted (s : Spec) : Prop := s.suspend = true ∨ s.IsMalformed

theorem Spec.not_isMalformed_of_span {s : Spec} {interval : Nat}
    (h : Interval.read s.rotationInterval = .span interval) : ¬ s.IsMalformed := by
  rintro ⟨reason, hr⟩
  cases h.symm.trans hr

/-! ### The answer to an event -/

namespace Event

/-- What an event found that was answered so. -/
inductive Answers (r : Resource) (now : Instant) : FollowUp → Prop where
  | suspended (hs : r.spec.suspend = true) : Answers r now .onChange
  | notDue {wait : Nat} (hs : r.spec.suspend = false) (ht : Trigger.classify r now = .notDue wait) :
      Answers r now (.after wait)
  | idle (ht : Trigger.classify r now = .idle) : Answers r now .onChange
  /-- A cycle was run, and the interval is none. -/
  | refused (hm : r.spec.IsMalformed) : Answers r now .onChange
  /-- A cycle was run that waited or came to an attempt. -/
  | later {interval delay : Nat} (hs : r.spec.suspend = false)
      (hi : Interval.read r.spec.rotationInterval = .span interval) : Answers r now (.after delay)

/-- A delay is answered by a delay. -/
theorem exists_answer_after (pending delay : Nat) :
    ∃ delay', answer pending (.after delay) = .after delay' := by
  rw [answer]
  split
  · exact ⟨pending, rfl⟩
  · exact ⟨delay, rfl⟩

variable [SecretStore σ] [RecordSink π] {r : Resource} {now : Instant} {next : FollowUp}
  {o : Operator σ π}

/-- What an event found that ran a cycle. -/
theorem answers_of_course? {key : String} {c : Cycle.Course} (hk : r.key = .ok key)
    (hc : course? r now = some c) (h : (handle r now o).1 = .ok next) : Answers r now next := by
  obtain ⟨hs, -, hcourse⟩ := course?_eq_some_iff.1 hc
  rw [handle_of_course?_eq_some hk hc] at h
  obtain ⟨outcome, hplay, rfl⟩ := exists_of_settle_eq_ok h
  cases c with
  | stuck => cases hplay
  | refused reason =>
      obtain rfl := Cycle.eq_of_conclude_eq_ok hplay
      exact .refused ⟨reason, read_of_course?_eq_refused hc⟩
  | waits wait =>
      obtain rfl := Except.ok.inj hplay
      obtain ⟨-, interval, hi, -⟩ := Cycle.course_eq_waits_iff.1 hcourse
      obtain ⟨delay, hd⟩ := exists_answer_after (o.backoffs.pending key) wait
      rw [hd]
      exact .later hs hi
  | attempts interval =>
      obtain ⟨left, next, w, he, hw⟩ :=
        Cycle.attempt_eq_conclude r.spec.policy interval o.storeRetry r.record now o.toWorld
      rw [Cycle.Course.play, hw] at hplay
      obtain rfl := Cycle.eq_of_conclude_eq_ok hplay
      cases hn : answer (o.backoffs.pending key) next with
      | onChange => exact absurd hn he.answer_ne_onChange
      | after delay => exact .later hs (read_of_course?_eq_attempts hc)

/-- **What an event found that was answered.** -/
theorem answers_of_handle (h : (handle r now o).1 = .ok next) : Answers r now next := by
  cases hk : r.key with
  | error part =>
      rw [handle_of_missing hk] at h
      cases h
  | ok key =>
      cases hc : course? r now with
      | some c => exact answers_of_course? hk hc h
      | none =>
          unfold handle at h
          rw [hk] at h
          dsimp only at h
          cases hs : r.spec.suspend with
          | true =>
              rw [if_pos hs] at h
              obtain rfl := Except.ok.inj h
              exact .suspended hs
          | false =>
              rw [hs, if_neg Bool.false_ne_true] at h
              cases ht : Trigger.classify r now with
              | notDue wait =>
                  rw [ht] at h
                  obtain rfl := Except.ok.inj h
                  exact .notDue hs ht
              | idle =>
                  rw [ht] at h
                  obtain rfl := Except.ok.inj h
                  exact .idle ht
              | specChanged | manual | due => simp [course?, hs, ht, Trigger.runs] at hc

end Event

/-! ### What the status tells of the spec -/

namespace Status

/-- The status tells of the spec whether it is malformed, and names no time if it is. -/
structure Tells (s : Status) (spec : Spec) : Prop where
  status_iff : s.status = some Phase.configError.name ↔ spec.IsMalformed
  nextRotationTime_eq : spec.IsMalformed → s.nextRotationTime = none

/-- The status that is written for a record tells of the spec that the record was left for. -/
theorem tells_ofRecord {r : Resource} {now stamp : Instant} {wrote : Option Bool} {record : Record}
    (h : Event.Hands r now wrote record) (schedule : Schedule) :
    Tells (ofRecord record r.metadata.generation schedule r.rotateRequest r.readyCondition stamp)
      r.spec := by
  cases h with
  | @refused reason hc =>
      have hm : r.spec.IsMalformed := ⟨reason, Event.read_of_course?_eq_refused hc⟩
      exact ⟨⟨fun _ => hm, fun _ => rfl⟩, fun _ => rfl⟩
  | undrawn hc | unwritten hc | rotated hc =>
      have hm := Spec.not_isMalformed_of_span (Event.read_of_course?_eq_attempts hc)
      refine ⟨⟨fun hp => ?_, fun h => absurd h hm⟩, fun h => absurd h hm⟩
      exact absurd (Option.some.inj hp) (by decide)

end Status

namespace Trigger

variable {r : Resource} {s : Status} {now : Instant}

/-- An event that waits goes by a status that was written for the present version of the spec. -/
theorem exists_status_of_classify {t : Trigger} (h : classify r now = t) (hm : t ≠ manual)
    (hc : t ≠ specChanged) :
    ∃ s, r.status = some s ∧ s.observedGeneration = r.metadata.generation ∧ ofStatus s now = t := by
  unfold classify at h
  split at h
  · exact absurd h.symm hm
  · split at h
    · exact absurd h.symm hc
    · next s hs =>
      split at h
      · next ho =>
        rw [isObserved, Bool.and_eq_true, beq_iff_eq] at ho
        exact ⟨s, hs, ho.2, h⟩
      · exact absurd h.symm hc

theorem status_of_ofStatus_eq_idle (h : ofStatus s now = idle) :
    s.status = some Phase.configError.name := by
  unfold ofStatus at h
  split at h
  · unfold ofTime at h
    split at h <;> cases h
  · split at h
    · assumption
    · cases h

theorem nextRotationTime_of_ofStatus_eq_notDue {wait : Nat} (h : ofStatus s now = notDue wait) :
    s.nextRotationTime ≠ none := by
  intro hnone
  rw [ofStatus, hnone] at h
  dsimp only [Option.bind_none] at h
  split at h <;> cases h

end Trigger

namespace Life

/-! ### The versions of the spec -/

/-- Each version of the spec has a number of its own: an edit takes a number that is not among those
`used` so far, or it leaves both the number and the spec as they are. -/
def IsNumbered : List Int → Int → Spec → List (Turn σ π) → Prop
  | _, _, _, [] => True
  | used, number, spec, .edit metadata spec' :: turns =>
    ∃ number', metadata.generation = some number' ∧
      (number' ∉ used ∨ number' = number ∧ spec' = spec) ∧
        IsNumbered (number' :: used) number' spec' turns
  | used, number, spec, .operator _ :: turns => IsNumbered used number spec turns
  | used, number, spec, .event _ :: turns => IsNumbered used number spec turns

/-- The status was written for one of the versions `used` so far; if that is the present version, it
tells of the present spec. -/
structure Observed (used : List Int) (number : Int) (l : Life σ π) : Prop where
  generation_eq : l.resource.metadata.generation = some number
  mem_used : number ∈ used
  status : ∀ s, l.resource.status = some s → ∃ seen ∈ used, s.observedGeneration = some seen ∧
    (seen = number → s.Tells l.resource.spec)

variable [SecretStore σ] [RecordSink π] {used : List Int} {number : Int}

/-- An edit keeps the status to the version that it was written for. -/
theorem observed_edit {l : Life σ π} (h : Observed used number l) {metadata : Metadata}
    {spec : Spec} {number' : Int} (hg : metadata.generation = some number')
    (hnew : number' ∉ used ∨ number' = number ∧ spec = l.resource.spec) :
    Observed (number' :: used) number' (l.step (.edit metadata spec)) := by
  refine ⟨hg, List.mem_cons_self, fun s hs => ?_⟩
  obtain ⟨seen, hmem, hseen, htells⟩ := h.status s hs
  refine ⟨seen, List.mem_cons_of_mem _ hmem, hseen, fun heq => ?_⟩
  rcases hnew with hfresh | ⟨hsame, hspec⟩
  · exact absurd (heq ▸ hmem) hfresh
  · rw [show (l.step (.edit metadata spec)).resource.spec = spec from rfl, hspec]
    exact htells (heq.trans hsame)

/-- An event leaves the status as it was, or writes one for the present version. -/
theorem observed_after {e : Occurrence σ π} (h : Observed used number e.toLife) :
    Observed used number e.after := by
  cases hk : e.kept? with
  | none =>
      have hsame := Occurrence.resource_after_of_none hk
      exact ⟨hsame ▸ h.generation_eq, h.mem_used, hsame ▸ h.status⟩
  | some record =>
      have hands := Occurrence.hands_of_kept? hk
      rw [Occurrence.after, hk]
      refine ⟨h.generation_eq, h.mem_used, fun s hs => ?_⟩
      obtain rfl := Option.some.inj hs
      exact ⟨number, h.mem_used, h.generation_eq, fun _ => Status.tells_ofRecord hands e.schedule⟩

/-- **The answer tells of the spec** where the status was observed. -/
theorem Observed.answer_cases {e : Occurrence σ π} (h : Observed used number e.toLife)
    {next : FollowUp} (ha : e.answer = .ok next) :
    (next = .onChange ∧ e.resource.spec.IsHalted) ∨
      ((∃ delay, next = .after delay) ∧ ¬ e.resource.spec.IsHalted) := by
  -- a status that the event went by was written for the present version
  have hpresent : ∀ s, e.resource.status = some s →
      s.observedGeneration = e.resource.metadata.generation → s.Tells e.resource.spec := by
    intro s hs ho
    obtain ⟨seen, -, hseen, htells⟩ := h.status s hs
    rw [hseen, h.generation_eq] at ho
    exact htells (Option.some.inj ho)
  cases Event.answers_of_handle ha with
  | suspended hs => exact .inl ⟨rfl, .inl hs⟩
  | idle ht =>
      obtain ⟨s, hs, ho, hidle⟩ := Trigger.exists_status_of_classify ht nofun nofun
      have hmalformed := (hpresent s hs ho).status_iff.1 (Trigger.status_of_ofStatus_eq_idle hidle)
      exact .inl ⟨rfl, .inr hmalformed⟩
  | refused hm => exact .inl ⟨rfl, .inr hm⟩
  | @notDue wait hs ht =>
      refine .inr ⟨⟨wait, rfl⟩, ?_⟩
      rintro (hsuspend | hm)
      · cases hs.symm.trans hsuspend
      · obtain ⟨s, hstatus, ho, hwait⟩ := Trigger.exists_status_of_classify ht nofun nofun
        exact Trigger.nextRotationTime_of_ofStatus_eq_notDue hwait
          ((hpresent s hstatus ho).nextRotationTime_eq hm)
  | @later interval delay hs hi =>
      refine .inr ⟨⟨delay, rfl⟩, ?_⟩
      rintro (hsuspend | hm)
      · cases hs.symm.trans hsuspend
      · exact Spec.not_isMalformed_of_span hi hm

/-- Every event of a run finds the status observed. -/
theorem observed_of_mem_occurrences {l : Life σ π} {turns : List (Turn σ π)}
    (hn : IsNumbered used number l.resource.spec turns) (h : Observed used number l) :
    ∀ e ∈ l.occurrences turns, ∃ used number, Observed used number e.toLife := by
  induction turns generalizing l used number with
  | nil => exact fun _ he => (nomatch he)
  | cons turn turns ih =>
      cases turn with
      | edit metadata spec =>
          obtain ⟨number', hg, hnew, hrest⟩ := hn
          exact ih hrest (observed_edit h hg hnew)
      | operator operator => exact ih hn ⟨h.generation_eq, h.mem_used, h.status⟩
      | event occasion =>
          have hnext : Observed used number (Occurrence.mk l occasion).after := observed_after h
          have hspec : (Occurrence.mk l occasion).after.resource.spec = l.resource.spec := by
            rw [Occurrence.after]
            split <;> rfl
          refine List.forall_mem_cons.2 ⟨⟨used, number, h⟩, ih ?_ hnext⟩
          rw [hspec]
          exact hn

/-- **No resource is stranded.**  A run starts without a status, and every version of the spec has a
number of its own; stores, sinks and random sources fail as they like.  An event that is answered
waits for a change exactly if the spec is suspended by then or its interval is none, and for a delay
otherwise. -/
theorem awaits_change_iff_halted {start : Life σ π} {turns : List (Turn σ π)}
    (hstatus : start.resource.status = none)
    (hgeneration : start.resource.metadata.generation = some number)
    (hnumbered : IsNumbered [number] number start.resource.spec turns) :
    ∀ e ∈ start.occurrences turns, ∀ next, e.answer = .ok next →
      (next = .onChange ∧ e.resource.spec.IsHalted) ∨
        ((∃ delay, next = .after delay) ∧ ¬ e.resource.spec.IsHalted) := by
  intro e he next ha
  have hstart : Observed [number] number start :=
    ⟨hgeneration, List.mem_singleton.2 rfl, fun s hs => by rw [hstatus] at hs; cases hs⟩
  obtain ⟨used, number', h⟩ := observed_of_mem_occurrences hnumbered hstart e he
  exact h.answer_cases ha

/-- The unrotated secret in one more version of its spec. -/
def revise (number : Int) (interval : String) (suspend : Bool) : Turn MemoryStore Journal :=
  .edit { Specimen.unrotated.metadata with generation := some number }
    { Specimen.unrotated.spec with rotationInterval := interval, suspend := suspend }

/-- The interval is mistyped and mended again, and the resource is suspended for a while. -/
def revisions : List (Turn MemoryStore Journal) :=
  [.event (Specimen.occasion 0), revise 2 "soon" false,
    .operator { Specimen.keeper .succeed 16 with sink := ⟨⟨[], some "conflict"⟩, []⟩ },
    .event (Specimen.occasion 60000), .operator (Specimen.keeper .succeed 16),
    .event (Specimen.occasion 120000), .event (Specimen.occasion 180000), revise 3 "2h" false,
    .event (Specimen.occasion 240000), revise 4 "2h" true, .event (Specimen.occasion 300000)]

/-- Once the interval is mended, the event waits for the rest of it, although the status still tells
of the mistyped one. -/
theorem revisions_await_change :
    ((mk Specimen.unrotated (Specimen.keeper .succeed 16)).occurrences revisions).map
        (fun e => (e.resource.spec.rotationInterval, e.resource.status.bind Status.status,
          e.answer.toOption)) =
      [("1h", none, some (.after 3600000000000)), ("soon", some "Ready", none),
        ("soon", some "Ready", some .onChange), ("soon", some "ConfigError", some .onChange),
        ("2h", some "ConfigError", some (.after 6960000000000)),
        ("2h", some "ConfigError", some .onChange)] ∧
    ∀ e ∈ (mk Specimen.unrotated (Specimen.keeper .succeed 16)).occurrences revisions,
      ∀ next, e.answer = .ok next →
        (next = .onChange ∧ e.resource.spec.IsHalted) ∨
          ((∃ delay, next = .after delay) ∧ ¬ e.resource.spec.IsHalted) := by
  have hnumbered : IsNumbered [1] 1 Specimen.unrotated.spec revisions :=
    ⟨2, rfl, .inl (by decide), 3, rfl, .inl (by decide), 4, rfl, .inl (by decide), trivial⟩
  exact ⟨by decide +kernel, awaits_change_iff_halted rfl rfl hnumbered⟩

end Life

end CredentialRotation
