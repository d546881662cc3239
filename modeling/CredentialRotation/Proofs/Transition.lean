import CredentialRotation.Resource.Schedule

/-!
# Proofs — Transition

The time that the condition `Ready` gives for its last transition.  Each status is built with the
condition of the one before it, and hands its time on for as long as the condition has the same
status.  So over a history of statuses the time is that of the first of the *block* that the status
lies in: the longest stretch of statuses, up to this one, whose condition shows the same
(`transition_of_block`).  Reasons and messages may change within a block, and so may the kind of a
failure.

A block goes on or begins with every status (`isBlock_succ_iff`); the induction is on the place in
the history, along these two cases.
-/

namespace CredentialRotation

/-! ### Blocks -/

/-- From `first` to `last` the values are the same, and the one before `first` is another. -/
structure IsBlock {α : Type} (value : Nat → α) (first last : Nat) : Prop where
  first_le : first ≤ last
  same : ∀ k, first ≤ k → k ≤ last → value k = value last
  differs : ∀ k, k + 1 = first → value k ≠ value last

section Block

variable {α : Type} {value : Nat → α} {first other last : Nat}

theorem isBlock_zero_iff : IsBlock value first 0 ↔ first = 0 := by
  constructor
  · exact fun h => Nat.le_zero.1 h.first_le
  · rintro rfl
    exact ⟨Nat.le_refl 0, fun k _ hk => by rw [Nat.le_zero.1 hk], fun k hk => nomatch hk⟩

/-- A value goes on with the block before it, or begins one of its own. -/
theorem isBlock_succ_iff :
    IsBlock value first (last + 1) ↔
      IsBlock value first last ∧ value last = value (last + 1) ∨
        first = last + 1 ∧ value last ≠ value (last + 1) := by
  constructor
  · intro h
    rcases Nat.lt_or_eq_of_le h.first_le with hlt | rfl
    · have hlast := h.same last (Nat.le_of_lt_succ hlt) (Nat.le_succ last)
      refine .inl ⟨⟨Nat.le_of_lt_succ hlt, fun k hk hle => ?_, fun k hk => ?_⟩, hlast⟩
      · rw [hlast, h.same k hk (Nat.le_succ_of_le hle)]
      · rw [hlast]
        exact h.differs k hk
    · exact .inr ⟨rfl, h.differs last rfl⟩
  · rintro (⟨h, hlast⟩ | ⟨rfl, hlast⟩)
    · refine ⟨Nat.le_succ_of_le h.first_le, fun k hk hle => ?_, fun k hk => ?_⟩
      · rcases Nat.lt_or_eq_of_le hle with hlt | rfl
        · rw [h.same k hk (Nat.le_of_lt_succ hlt), hlast]
        · rfl
      · rw [← hlast]
        exact h.differs k hk
    · refine ⟨Nat.le_refl _, fun k hk hle => ?_, fun k hk => ?_⟩
      · rw [Nat.le_antisymm hle hk]
      · obtain rfl := Nat.succ.inj hk
        exact hlast

/-- Every place is the end of a block. -/
theorem exists_isBlock (value : Nat → α) (last : Nat) : ∃ first, IsBlock value first last := by
  induction last with
  | zero => exact ⟨0, isBlock_zero_iff.2 rfl⟩
  | succ last ih =>
      by_cases h : value last = value (last + 1)
      · obtain ⟨first, hfirst⟩ := ih
        exact ⟨first, isBlock_succ_iff.2 (.inl ⟨hfirst, h⟩)⟩
      · exact ⟨last + 1, isBlock_succ_iff.2 (.inr ⟨rfl, h⟩)⟩

/-- And of only one. -/
theorem IsBlock.unique (h : IsBlock value first last) (h' : IsBlock value other last) :
    first = other := by
  induction last with
  | zero => rw [isBlock_zero_iff.1 h, isBlock_zero_iff.1 h']
  | succ last ih =>
      rcases isBlock_succ_iff.1 h with ⟨hb, hv⟩ | ⟨rfl, hv⟩ <;>
        rcases isBlock_succ_iff.1 h' with ⟨hb', hv'⟩ | ⟨rfl, hv'⟩
      · exact ih hb hb'
      · exact absurd hv hv'
      · exact absurd hv' hv
      · rfl

end Block

/-! ### Histories -/

/-- What a status is built from, but for the condition before it. -/
structure Update where
  record : Record
  generation : Option Int
  schedule : Schedule
  request : Option String
  now : Instant

namespace Update

/-- The status, given the condition before it. -/
def status (u : Update) (previous : Option Condition) : Status :=
  .ofRecord u.record u.generation u.schedule u.request previous u.now

/-- The statuses one after another, each built with the condition `Ready` of the one before. -/
def history : Option Condition → List Update → List Status
  | _, [] => []
  | previous, u :: updates =>
    u.status previous :: history (u.status previous).readyCondition updates

/-- The condition `Ready` of the `k`-th status. -/
def conditionAt (updates : List Update) (k : Nat) : Option Condition :=
  (history none updates)[k]?.bind Status.readyCondition

/-- What that condition shows: `True`, `False` or `Unknown`. -/
def shownAt (updates : List Update) (k : Nat) : Option String :=
  (conditionAt updates k).map Condition.status

variable {updates : List Update} {u : Update} {k : Nat}

theorem readyCondition_status (u : Update) (previous : Option Condition) :
    (u.status previous).readyCondition = some (.ready u.record previous u.now) := rfl

theorem getElem?_history_zero (previous : Option Condition) (updates : List Update) :
    (history previous updates)[0]? = updates[0]?.map fun u => u.status previous := by
  cases updates <;> rfl

theorem getElem?_history_succ (previous : Option Condition) (updates : List Update) (k : Nat) :
    (history previous updates)[k + 1]? = updates[k + 1]?.map fun u =>
      u.status ((history previous updates)[k]?.bind Status.readyCondition) := by
  induction updates generalizing previous k with
  | nil => rfl
  | cons u updates ih =>
      rw [history, List.getElem?_cons_succ, List.getElem?_cons_succ]
      cases k with
      | zero => exact getElem?_history_zero _ updates
      | succ k => rw [ih, List.getElem?_cons_succ]

theorem conditionAt_zero (h : updates[0]? = some u) :
    conditionAt updates 0 = some (.ready u.record none u.now) := by
  rw [conditionAt, getElem?_history_zero, h]
  exact readyCondition_status u none

theorem conditionAt_succ (h : updates[k + 1]? = some u) :
    conditionAt updates (k + 1) = some (.ready u.record (conditionAt updates k) u.now) := by
  rw [conditionAt, getElem?_history_succ, h]
  exact readyCondition_status u _

theorem exists_conditionAt (h : updates[k]? = some u) :
    ∃ previous, conditionAt updates k = some (.ready u.record previous u.now) := by
  cases k with
  | zero => exact ⟨none, conditionAt_zero h⟩
  | succ k => exact ⟨_, conditionAt_succ h⟩

/-- The time is handed on from a condition with the same status, and is that of the update
otherwise. -/
theorem lastTransitionTime_ready (r : Record) (previous : Condition) (now : Instant) :
    (Condition.ready r (some previous) now).lastTransitionTime =
      if previous.status = (Condition.ready r (some previous) now).status then
        previous.lastTransitionTime
      else some now.toText := rfl

/-- **The time is that of the update which begins the block.** -/
theorem lastTransitionTime_of_isBlock {first last : Nat} (h : last < updates.length)
    (hb : IsBlock (shownAt updates) first last) :
    (conditionAt updates last).bind Condition.lastTransitionTime =
      updates[first]?.map fun u => u.now.toText := by
  induction last with
  | zero =>
      obtain rfl := isBlock_zero_iff.1 hb
      have hu := List.getElem?_eq_getElem h
      rw [conditionAt_zero hu, hu]
      rfl
  | succ last ih =>
      have hlt := Nat.lt_of_succ_lt h
      have hu := List.getElem?_eq_getElem h
      have hnow := conditionAt_succ hu
      obtain ⟨_, hprevious⟩ := exists_conditionAt (List.getElem?_eq_getElem hlt)
      rw [hprevious] at hnow
      rw [hnow, Option.bind_some, lastTransitionTime_ready]
      rw [isBlock_succ_iff] at hb
      simp only [shownAt, hprevious, hnow, Option.map_some, ne_eq, Option.some_inj] at hb
      rcases hb with ⟨hblock, hsame⟩ | ⟨rfl, hother⟩
      · rw [if_pos hsame, ← ih hlt hblock, hprevious, Option.bind_some]
      · rw [if_neg hother, hu, Option.map_some]

/-- **The transition time is that of the last real transition.**  Statuses are built one after
another, each with the condition `Ready` of the one before, and the first with none.  Then the
condition of each shows what became of its record, and gives the time of the update that begins its
block: of the stretches that end with it and whose conditions all show the same, the block is the
longest. -/
theorem transition_of_block {updates : List Update} {last : Nat} {u : Update}
    (h : updates[last]? = some u) :
    ∃ first start condition,
      IsBlock (shownAt updates) first last ∧
        (∀ other, IsBlock (shownAt updates) other last → other = first) ∧
        updates[first]? = some start ∧ conditionAt updates last = some condition ∧
        condition.status = (Condition.readyStatus u.record.phase).1 ∧
        condition.lastTransitionTime = some start.now.toText := by
  obtain ⟨hlt, -⟩ := List.getElem?_eq_some_iff.1 h
  obtain ⟨first, hb⟩ := exists_isBlock (shownAt updates) last
  have hfirst := List.getElem?_eq_getElem (Nat.lt_of_le_of_lt hb.first_le hlt)
  obtain ⟨_, hcondition⟩ := exists_conditionAt h
  have htime := lastTransitionTime_of_isBlock hlt hb
  rw [hcondition, hfirst] at htime
  exact ⟨first, _, _, hb, fun other ho => ho.unique hb, hfirst, hcondition, rfl, htime⟩

end Update

/-! ### A specimen -/

namespace Specimen

/-- The status after a cycle that ended in the phase so many seconds past eight. -/
def ended (phase : Phase) (seconds : Nat) : Update :=
  ⟨⟨none, some phase, none⟩, some 1, ⟨some 3600000000000, 30000000000, 1000000000⟩, none,
    .ofTicks (1717228800000000000 + seconds * 1000000000)⟩

/-- A secret in order, and then failing in one way and another. -/
def troubles : List Update :=
  [ended .ready 0, ended .storeError 60, ended .generationError 90, ended .storeError 91]

end Specimen

namespace Update

/-- The failures began at a minute past eight, and that is what the last condition tells. -/
theorem troubles_since_a_minute_past_eight :
    ∃ condition, conditionAt Specimen.troubles 3 = some condition ∧
      condition.status = "False" ∧ condition.lastTransitionTime = some "2024-06-01T08:01:00Z" := by
  have hblock : IsBlock (shownAt Specimen.troubles) 1 3 := by
    refine isBlock_succ_iff.2 (.inl ⟨?_, by decide⟩)
    refine isBlock_succ_iff.2 (.inl ⟨?_, by decide⟩)
    exact isBlock_succ_iff.2 (.inr ⟨rfl, by decide⟩)
  have hlast : Specimen.troubles[3]? = some (Specimen.ended .storeError 91) := rfl
  obtain ⟨first, start, condition, -, hunique, hstart, hcondition, hstatus, htime⟩ :=
    transition_of_block hlast
  obtain rfl := hunique 1 hblock
  obtain rfl := Option.some.inj hstart
  have hminute : (Specimen.ended .storeError 60).now.toText = "2024-06-01T08:01:00Z" := by
    decide +kernel
  exact ⟨condition, hcondition, hstatus, htime.trans (congrArg some hminute)⟩

end Update

end CredentialRotation
