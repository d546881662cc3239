import CredentialRotation.Proofs.Course.Kept
import CredentialRotation.Proofs.Time.Order

/-!
# Proofs — Advance

Whether the time of the last rotation goes forward.  A cycle sets it to its own time if the store
took a password, and keeps it otherwise (`rotatedAt_of_run`), so that it can go back only where the
clock lies before it.  There a cycle that is not forced waits: what lies in the future has not been
for any time.  Nothing makes a forced cycle wait.

**Main statement** (`rotatedAt_goes_back_iff`).  A cycle with an outcome keeps a time of the last
rotation, and moves it back exactly if it rotates the secret while the clock lies before that time.
Outside leap seconds only a forced cycle does.
-/

namespace CredentialRotation.Cycle

variable {σ π : Type} [SecretStore σ] {policy : Policy} {record : Record} {now : Instant}
  {forced : Bool} {w : World σ π}

/-- The cycle comes to an attempt, a password is drawn, and the store takes it. -/
def Rotates (policy : Policy) (record : Record) (now : Instant) (forced : Bool) (w : World σ π) :
    Prop :=
  (∃ interval, course policy record now forced = .attempts interval) ∧
    ∃ secret entropy store,
      Password.draw (.standard policy.includeSymbols) policy.effectiveLength w.entropy =
        (.ok secret, entropy) ∧
      SecretStore.write w.store policy.storePath secret = (.ok (), store)

theorem not_rotates_of_course
    (h : ∀ interval, course policy record now forced ≠ .attempts interval) :
    ¬ Rotates policy record now forced w := by
  rintro ⟨⟨interval, hc⟩, -⟩
  exact h interval hc

/-- An attempt that rotates the secret leaves its time, and any other the time before it. -/
theorem Ending.rotatedAt_cases {interval storeRetry : Nat} {left : Record} {next : FollowUp}
    {w' : World σ π} (hc : course policy record now forced = .attempts interval)
    (h : Ending policy interval storeRetry record now w left next w') :
    Rotates policy record now forced w ∧ left.rotatedAt = some now ∨
      ¬ Rotates policy record now forced w ∧ left.rotatedAt = record.rotatedAt := by
  cases h with
  | undrawn hd =>
      refine .inr ⟨?_, rfl⟩
      rintro ⟨-, secret, entropy, store, hdraw, -⟩
      cases hd.symm.trans hdraw
  | unwritten hd hw =>
      refine .inr ⟨?_, rfl⟩
      rintro ⟨-, secret, entropy, store, hdraw, hwrite⟩
      cases hd.symm.trans hdraw
      cases hw.symm.trans hwrite
  | rotated hd hw => exact .inl ⟨⟨⟨interval, hc⟩, _, _, _, hd, hw⟩, rfl⟩

variable [RecordSink π] {storeRetry : Nat} {outcome : Outcome}

/-- **A cycle with an outcome** leaves its own time if it rotates the secret, and otherwise the time
that it found. -/
theorem rotatedAt_of_run (h : (run policy record now forced storeRetry w).1 = .ok outcome) :
    Rotates policy record now forced w ∧ outcome.record.rotatedAt = some now ∨
      ¬ Rotates policy record now forced w ∧ outcome.record.rotatedAt = record.rotatedAt := by
  rw [run_eq_play] at h
  cases hc : course policy record now forced with
  | stuck =>
      rw [hc] at h
      cases h
  | refused reason =>
      rw [hc] at h
      obtain rfl := eq_of_conclude_eq_ok h
      exact .inr ⟨not_rotates_of_course fun _ he => (nomatch hc.symm.trans he), rfl⟩
  | waits wait =>
      rw [hc] at h
      obtain rfl := Except.ok.inj h
      exact .inr ⟨not_rotates_of_course fun _ he => (nomatch hc.symm.trans he), rfl⟩
  | attempts interval =>
      obtain ⟨left, next, w', hending, hattempt⟩ :=
        attempt_eq_conclude policy interval storeRetry record now w
      rw [hc, Course.play, hattempt] at h
      obtain rfl := eq_of_conclude_eq_ok h
      exact hending.rotatedAt_cases hc

omit [RecordSink π] in
/-- Outside leap seconds, a cycle that is not forced rotates the secret only after its last
rotation. -/
theorem Rotates.le_now {last : Instant} (h : Rotates policy record now false w)
    (hleap : ¬ now.IsLeap) (hlast : record.rotatedAt = some last) : last ≤ now := by
  obtain ⟨⟨interval, hc⟩, -⟩ := h
  obtain ⟨hread, hforced | hdue⟩ := course_eq_attempts_iff.1 hc
  · cases hforced
  -- the interval is never zero, so that some time has passed since the last rotation
  · have hpos := Interval.pos_of_read_eq_span hread
    have hover := Due.decide_eq_rotateNow_iff_forall.1 hdue last hlast
    have hpassed : 0 < now.since last := by
      rw [Instant.elapsed] at hover
      omega
    exact Instant.le_of_since_pos hleap hpassed

/-- **When the time of the last rotation goes back.**  A cycle that found such a time, and has an
outcome, leaves one.  That lies before the one it found exactly if the cycle rotates the secret
while the clock does; so no cycle moves it back outside leap seconds without being forced. -/
theorem rotatedAt_goes_back_iff {last : Instant}
    (h : (run policy record now forced storeRetry w).1 = .ok outcome)
    (hlast : record.rotatedAt = some last) :
    ∃ left, outcome.record.rotatedAt = some left ∧
      (left < last ↔ Rotates policy record now forced w ∧ now < last) ∧
      (forced = false → ¬ now.IsLeap → last ≤ left) := by
  rcases rotatedAt_of_run h with ⟨hrotates, hleft⟩ | ⟨hkeeps, hleft⟩
  · refine ⟨now, hleft, ⟨fun hlt => ⟨hrotates, hlt⟩, fun hlt => hlt.2⟩, fun hf hleap => ?_⟩
    subst hf
    exact hrotates.le_now hleap hlast
  · refine ⟨last, hleft.trans hlast, ⟨fun hlt => ?_, fun hlt => absurd hlt.1 hkeeps⟩, fun _ _ => ?_⟩
    · exact absurd hlt (lt_irrefl last)
    · exact le_refl last

-- in a leap second at midnight the interval may be over before the last rotation is reached
example :
    let last : Instant := ⟨1483228800, 200000000, by decide, by decide⟩
    let now : Instant := ⟨1483228799, 1900000000, by decide, by decide⟩
    now < last ∧ Due.decide 500000000 (some last) now = .rotateNow := by
  decide

/-- A rotation that is asked for while the clock is an hour behind takes the time of the last
rotation back to eight. -/
theorem forced_rotation_goes_back :
    ∃ outcome, (run Specimen.unrotated.spec.policy
          (.rotated (Specimen.clock 3600000) "Secret rotated") (Specimen.clock 0) true 0
          { (Specimen.operator 0).toWorld with store := MemoryStore.blank .succeed }).1 =
            .ok outcome ∧
      ∃ left, outcome.record.rotatedAt = some left ∧ left < Specimen.clock 3600000 := by
  have hrun : (run Specimen.unrotated.spec.policy
      (.rotated (Specimen.clock 3600000) "Secret rotated") (Specimen.clock 0) true 0
      { (Specimen.operator 0).toWorld with store := MemoryStore.blank .succeed }).1 =
      .ok ⟨.rotated (Specimen.clock 0) "Secret rotated and written to secret/data/orders",
        .after 3600000000000⟩ :=
    Specimen.eq_ok_of_toOption (by decide +kernel)
  obtain ⟨left, hleft, hback, -⟩ := rotatedAt_goes_back_iff hrun rfl
  have hnow : Specimen.clock 0 = left := Option.some.inj hleft
  refine ⟨_, hrun, left, hleft, ?_⟩
  rw [← hnow]
  decide

end CredentialRotation.Cycle
