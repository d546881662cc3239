import CredentialRotation.Proofs.Life.Acknowledged
import CredentialRotation.Proofs.Metrics.Deed

/-!
# Proofs — Metrics — Reason

The reason for which a resource is looked at again after a cycle.  It should name what the cycle
did, but it is found out from the follow-up and from the record after the cycle, and these do not
always tell.  A cycle that waits leaves the record of an earlier one, and a store failure without a
delay is followed up like a password that was not drawn.

**Main statement** (`reason_explains_deed`).  An event that runs a cycle and is answered counts one
reason.  That names what the cycle did, unless the store failed and no delay is set for that, or the
cycle waited while the record still told of a failure.
-/

namespace CredentialRotation

variable {σ π : Type}

/-- The record tells of a failure. -/
def Record.IsFailure (r : Record) : Prop := ∃ phase, r.phase = some phase ∧ phase.isError = true

/-- The reason for which a resource is looked at again, if that is what the sample counts. -/
def Sample.reason? : Sample → Option RequeueReason
  | requeue reason => some reason
  | rotation | rotationFailure _ | reconciliation | reconciliationError | reconciliationTime
  | storeWriteTime _ => none

namespace World

/-- The reasons for which resources have been looked at again so far, the latest last. -/
def reasons (w : World σ π) : List RequeueReason := w.samples.filterMap Sample.reason?

end World

namespace Cycle.Deed

/-- The reason that names the deed; a cycle that got stuck has none. -/
def reason? : Deed → Option RequeueReason
  | stuck => none
  | refused => some .awaitChange
  | undrawn => some .retryBackoff
  | unwritten => some .storeRetry
  | waited | rotated => some .scheduled

/-- No deed counts a reason by itself. -/
theorem filterMap_reason?_samples (deed : Deed) (kind : String) :
    (deed.samples kind).filterMap Sample.reason? = [] := by
  cases deed <;> rfl

end Cycle.Deed

namespace Event

/-- What the reason that was counted tells of the cycle, where the record before and the delay after
a store failure are known. -/
structure Explains (before : Record) (storeRetry : Nat) (deed : Cycle.Deed)
    (reason : RequeueReason) : Prop where
  /-- When the reason names what the cycle did. -/
  names_iff : deed.reason? = some reason ↔
    ¬ (deed = .unwritten ∧ storeRetry = 0 ∨ deed = .waited ∧ before.IsFailure)
  awaitChange_iff : reason = .awaitChange ↔ deed = .refused
  /-- Without a delay a store failure counts as a password that was not drawn. -/
  retryBackoff_iff : reason = .retryBackoff ↔
    deed = .undrawn ∨ deed = .unwritten ∧ storeRetry = 0
  /-- After a failure a cycle that waits counts as one that the store has failed. -/
  storeRetry_iff : reason = .storeRetry ↔
    deed = .unwritten ∧ storeRetry ≠ 0 ∨ deed = .waited ∧ before.IsFailure
  scheduled_iff : reason = .scheduled ↔
    deed = .rotated ∨ deed = .waited ∧ ¬ before.IsFailure

theorem laterReason_of_isFailure {r : Record} (h : r.IsFailure) : laterReason r = .storeRetry := by
  obtain ⟨phase, hp, he⟩ := h
  rw [laterReason, hp]
  exact if_pos he

theorem laterReason_of_not_isFailure {r : Record} (h : ¬ r.IsFailure) :
    laterReason r = .scheduled := by
  unfold laterReason
  split
  · next phase hp => exact if_neg fun he => h ⟨phase, hp, he⟩
  · rfl

/-- **An outcome explains the deed** that it is one of. -/
theorem explains_of_leaves {before : Record} {storeRetry : Nat} {deed : Cycle.Deed}
    {outcome : Cycle.Outcome} (h : deed.Leaves before storeRetry outcome) :
    Explains before storeRetry deed (reason outcome) := by
  cases h with
  | refused => constructor <;> simp [reason, Cycle.Deed.reason?]
  | undrawn => constructor <;> simp [reason, Cycle.Deed.reason?]
  | @rotated left interval hphase hpos =>
      have hready : ¬ left.IsFailure := by
        rintro ⟨phase, hp, he⟩
        cases hphase.symm.trans hp
        cases he
      constructor <;> simp [reason, Cycle.Deed.reason?, Nat.ne_of_gt hpos,
        laterReason_of_not_isFailure hready]
  | unwritten hphase =>
      have hlater := laterReason_of_isFailure ⟨_, hphase, rfl⟩
      by_cases hzero : storeRetry = 0
      · constructor <;> simp [reason, Cycle.Deed.reason?, hzero]
      · constructor <;> simp [reason, Cycle.Deed.reason?, hzero, hlater]
  | waited hpos =>
      by_cases hfailed : before.IsFailure
      · constructor <;> simp [reason, Cycle.Deed.reason?, Nat.ne_of_gt hpos, hfailed,
          laterReason_of_isFailure]
      · constructor <;> simp [reason, Cycle.Deed.reason?, Nat.ne_of_gt hpos, hfailed,
          laterReason_of_not_isFailure]

variable [SecretStore σ] [RecordSink π] {r : Resource} {now : Instant} {o : Operator σ π}
  {next : FollowUp}

/-- **What the reason tells of the cycle.**  An event that runs a cycle and is answered counts
exactly one reason, and for each reason there are certain deeds of the cycle. -/
theorem reason_explains_deed (hs : r.spec.suspend = false)
    (hr : (Trigger.classify r now).runs = true) (h : (handle r now o).1 = .ok next) :
    ∃ reason, (handle r now o).2.reasons = o.reasons ++ [reason] ∧
      Explains r.record o.storeRetry (deed r now o) reason := by
  obtain ⟨key, hk⟩ := exists_key_of_answer h
  obtain ⟨outcome, hran, hleaves⟩ := exists_outcome_of_answer hs hr h
  refine ⟨reason outcome, ?_, explains_of_leaves hleaves⟩
  rw [World.reasons, samples_of_runs hk hs hr, hran, List.filterMap_append, List.filterMap_append,
    Cycle.Deed.filterMap_reason?_samples]
  rfl

/-- The secret was rotated at eight, and its interval has been mended since.  The event only waits,
and counts a failure of the store, which was never asked. -/
theorem mended_reason_storeRetry :
    deed Specimen.mended (Specimen.clock 300000) (Specimen.keeper .succeed 16) = .waited ∧
      (handle Specimen.mended (Specimen.clock 300000) (Specimen.keeper .succeed 16)).2.reasons =
        [.storeRetry] := by
  have hdeed :
      deed Specimen.mended (Specimen.clock 300000) (Specimen.keeper .succeed 16) = .waited := by
    decide +kernel
  have hanswer : (handle Specimen.mended (Specimen.clock 300000) (Specimen.keeper .succeed 16)).1 =
      .ok (.after 3300000000000) := Specimen.eq_ok_of_toOption (by decide +kernel)
  obtain ⟨reason, hreasons, hexplains⟩ := reason_explains_deed rfl (by decide +kernel) hanswer
  have hfailed : Specimen.mended.record.IsFailure := ⟨.configError, by decide +kernel, rfl⟩
  obtain rfl := hexplains.storeRetry_iff.2 (.inr ⟨hdeed, hfailed⟩)
  exact ⟨hdeed, hreasons⟩

end Event

end CredentialRotation
