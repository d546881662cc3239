import CredentialRotation.Proofs.Course.Event
import CredentialRotation.Store.Memory

/-!
# Proofs — Secrecy — Event

What an event shows of a password.  Two random sources give different passwords; side by side,
everything that an event does with either is compared step by step.

A relation between stores *conceals* the secrets (`SecretStore.Conceals`) if related stores answer
alike, whatever secret each is given, and stay related.  Worlds are alike up to it if they differ in
nothing but such stores and the random source, and so are operators.

* `indistinct_iff`: there is such a relation for every store that answers without regard to the
  secrets, and for no other; for a store in memory all but the values can be held equal
  (`MemoryStore.conceals`).
* `attempt_agree`: an attempt that draws its password comes to the same in worlds that are alike.
* `handle_agree`, `retry_agree`: so does an event, and a failed one.
-/

namespace CredentialRotation

variable {σ π α β ι : Type}

/-! ### Stores that show nothing of a secret -/

namespace SecretStore

variable [SecretStore σ]

/-- What a write shows: how it ended, and what kind of store it came to. -/
def shown (s : σ) (path : String) (secret : Secret) : Except StoreError Unit × String :=
  ((write s path secret).1, kind (write s path secret).2)

/-- Related stores show the same, whatever secrets they are given for a path, and stay related. -/
structure Conceals (R : σ → σ → Prop) : Prop where
  shown_eq :
    ∀ {s s' : σ}, R s s' → ∀ path secret secret', shown s path secret = shown s' path secret'
  stays : ∀ {s s' : σ}, R s s' → ∀ path secret secret',
    R (write s path secret).2 (write s' path secret').2

/-- What a list of writes shows. -/
def shownAll (s : σ) : List (String × Secret) → List (Except StoreError Unit × String)
  | [] => []
  | (path, secret) :: writes => shown s path secret :: shownAll (write s path secret).2 writes

/-- Whatever is written to the same paths, the stores show the same. -/
def Indistinct (s s' : σ) : Prop :=
  ∀ writes writes' : List (String × Secret), writes.map Prod.fst = writes'.map Prod.fst →
    shownAll s writes = shownAll s' writes'

/-- **Stores that nobody can tell apart conceal the secrets.** -/
theorem conceals_indistinct : Conceals (Indistinct (σ := σ)) where
  shown_eq h path secret secret' :=
    List.head_eq_of_cons_eq (h [(path, secret)] [(path, secret')] rfl)
  stays h path secret secret' writes writes' hpaths := by
    have hpaths' :
        ((path, secret) :: writes).map Prod.fst = ((path, secret') :: writes').map Prod.fst :=
      congrArg (path :: ·) hpaths
    exact List.tail_eq_of_cons_eq (h _ _ hpaths')

/-- Stores that are related by anything that conceals the secrets cannot be told apart. -/
theorem Conceals.indistinct {R : σ → σ → Prop} (hR : Conceals R) {s s' : σ} (h : R s s') :
    Indistinct s s' := by
  intro writes
  induction writes generalizing s s' with
  | nil =>
      intro writes' hpaths
      obtain rfl := List.map_eq_nil_iff.1 hpaths.symm
      rfl
  | cons first writes ih =>
      intro writes' hpaths
      obtain ⟨path, secret⟩ := first
      cases writes' with
      | nil => cases hpaths
      | cons first' writes' =>
          obtain ⟨path', secret'⟩ := first'
          obtain ⟨rfl, hrest⟩ := List.cons.inj hpaths
          exact List.cons_eq_cons.2 ⟨hR.shown_eq h _ _ _, ih (hR.stays h _ _ _) _ hrest⟩

/-- So nothing is lost by asking for a relation: there is one for stores that nobody can tell apart,
and for no others. -/
theorem indistinct_iff {s s' : σ} :
    Indistinct s s' ↔ ∃ R : σ → σ → Prop, Conceals R ∧ R s s' := by
  constructor
  · intro h
    exact ⟨Indistinct, conceals_indistinct, h⟩
  · rintro ⟨R, hR, h⟩
    exact hR.indistinct h

end SecretStore

namespace MemoryStore

/-- The stores differ in nothing but the values that they hold. -/
structure SameButValues (s s' : MemoryStore) : Prop where
  behavior : s.behavior = s'.behavior
  attempts : s.attempts = s'.attempts
  successes : s.successes = s'.successes
  holds : ∀ path, (s.value? path).isSome = (s'.value? path).isSome

theorem SameButValues.stored {s s' : MemoryStore} (h : s.SameButValues s') (path : String)
    (secret secret' : Secret) : (s.stored path secret).SameButValues (s'.stored path secret') where
  behavior := h.behavior
  attempts := congrArg (· + 1) h.attempts
  successes := congrArg (· + 1) h.successes
  holds other := by
    simp only [MemoryStore.stored]
    split
    · rfl
    · exact h.holds other

theorem SameButValues.failedAttempt {s s' : MemoryStore} (h : s.SameButValues s')
    (behavior : StoreBehavior) :
    (s.failedAttempt behavior).SameButValues (s'.failedAttempt behavior) where
  behavior := rfl
  attempts := congrArg (· + 1) h.attempts
  successes := h.successes
  holds := h.holds

theorem write_sameButValues {s s' : MemoryStore} (h : s.SameButValues s') (path : String)
    (secret secret' : Secret) :
    (s.write path secret).1 = (s'.write path secret').1 ∧
      (s.write path secret).2.SameButValues (s'.write path secret').2 := by
  unfold write
  rw [← h.behavior]
  cases s.behavior with
  | succeed => exact ⟨rfl, h.stored path secret secret'⟩
  | fail reason => exact ⟨rfl, h.failedAttempt _⟩
  | failTimes count =>
      cases count with
      | zero => exact ⟨rfl, h.stored path secret secret'⟩
      | succ remaining => exact ⟨rfl, h.failedAttempt _⟩

/-- **A store in memory shows nothing of a secret.** -/
theorem conceals : SecretStore.Conceals SameButValues where
  shown_eq h path secret secret' :=
    congrArg (·, "memory") (write_sameButValues h path secret secret').1
  stays h path secret secret' := (write_sameButValues h path secret secret').2

end MemoryStore

/-! ### Runs side by side -/

/-- Two results are the same, and what they come with is related. -/
def Agree (S : β → β → Prop) (x x' : α × β) : Prop := x.1 = x'.1 ∧ S x.2 x'.2

/-- A password can be drawn for the policy. -/
def Entropy.Suffices (source : Entropy) (policy : Policy) : Prop :=
  ∃ secret rest, Password.draw (.standard policy.includeSymbols) policy.effectiveLength source =
    (.ok secret, rest)

/-- The worlds differ in their random sources, and up to the relation in their stores. -/
structure World.Alike (R : σ → σ → Prop) (w w' : World σ π) : Prop where
  store : R w.store w'.store
  sink : w.sink = w'.sink
  samples : w.samples = w'.samples

theorem World.Alike.count {R : σ → σ → Prop} {w w' : World σ π} (h : w.Alike R w') (s : Sample) :
    (w.count s).Alike R (w'.count s) :=
  ⟨h.store, h.sink, congrArg (· ++ [s]) h.samples⟩

namespace Cycle

variable [SecretStore σ] [RecordSink π] {R : σ → σ → Prop} {w w' : World σ π}

omit [SecretStore σ] in
theorem conclude_agree (h : w.Alike R w') (record : Record) (next : FollowUp) :
    Agree (World.Alike R) (conclude record next w) (conclude record next w') := by
  unfold conclude
  rw [← h.sink]
  rcases RecordSink.put w.sink record with ⟨result, sink⟩
  cases result with
  | ok _ => exact ⟨rfl, h.store, rfl, h.samples⟩
  | error reason => exact ⟨rfl, h.store, rfl, h.samples⟩

/-- Whatever the passwords are, writing them comes to the same. -/
theorem write_agree (hR : SecretStore.Conceals R) (h : w.Alike R w') (policy : Policy)
    (interval storeRetry : Nat) (record : Record) (now : Instant) (secret secret' : Secret) :
    Agree (World.Alike R) (write policy interval storeRetry record now secret w)
      (write policy interval storeRetry record now secret' w') := by
  have hshown := hR.shown_eq h.store policy.storePath secret secret'
  have hstays := hR.stays h.store policy.storePath secret secret'
  obtain ⟨hanswer, hkind⟩ := Prod.mk.inj hshown
  unfold write
  rcases hw : SecretStore.write w.store policy.storePath secret with ⟨result, store⟩
  rcases hw' : SecretStore.write w'.store policy.storePath secret' with ⟨result', store'⟩
  rw [hw, hw'] at hanswer hkind hstays
  obtain rfl : result = result' := hanswer
  dsimp only at hkind ⊢
  rw [hkind]
  have hwritten : ({ w with store := store } : World σ π).Alike R { w' with store := store' } :=
    ⟨hstays, h.sink, h.samples⟩
  cases result with
  | error reason => exact conclude_agree ((hwritten.count _).count _) _ _
  | ok _ => exact conclude_agree ((hwritten.count _).count _) _ _

/-- **An attempt shows nothing of the password that it draws.** -/
theorem attempt_agree (hR : SecretStore.Conceals R) (h : w.Alike R w') {policy : Policy}
    (hdraw : w.entropy.Suffices policy) (hdraw' : w'.entropy.Suffices policy)
    (interval storeRetry : Nat) (record : Record) (now : Instant) :
    Agree (World.Alike R) (attempt policy interval storeRetry record now w)
      (attempt policy interval storeRetry record now w') := by
  obtain ⟨secret, rest, hdraw⟩ := hdraw
  obtain ⟨secret', rest', hdraw'⟩ := hdraw'
  have hdrawn : ({ w with entropy := rest } : World σ π).Alike R { w' with entropy := rest' } :=
    ⟨h.store, h.sink, h.samples⟩
  simp only [attempt, hdraw, hdraw']
  exact write_agree hR hdrawn policy interval storeRetry record now secret secret'

/-- **A cycle shows nothing of its password**, if it can draw one where it comes to an attempt. -/
theorem run_agree (hR : SecretStore.Conceals R) (h : w.Alike R w') {policy : Policy}
    {record : Record} {now : Instant} {forced : Bool}
    (hdraw : ∀ interval, course policy record now forced = .attempts interval →
      w.entropy.Suffices policy ∧ w'.entropy.Suffices policy) (storeRetry : Nat) :
    Agree (World.Alike R) (run policy record now forced storeRetry w)
      (run policy record now forced storeRetry w') := by
  rw [run_eq_play, run_eq_play]
  cases hc : course policy record now forced with
  | stuck => exact ⟨rfl, h⟩
  | refused reason => exact conclude_agree (h.count _) _ _
  | waits wait => exact ⟨rfl, h⟩
  | attempts interval =>
      obtain ⟨hfirst, hsecond⟩ := hdraw interval hc
      exact attempt_agree hR h hfirst hsecond interval storeRetry record now

end Cycle

/-- The operators differ in their random sources, and up to the relation in their stores. -/
structure Operator.Alike (R : σ → σ → Prop) (o o' : Operator σ π) : Prop where
  world : o.toWorld.Alike R o'.toWorld
  backoffs : o.backoffs = o'.backoffs
  storeRetry : o.storeRetry = o'.storeRetry

namespace Event

variable {R : σ → σ → Prop} {o o' : Operator σ π}

theorem follow_agree (h : o.Alike R o') (key : String) (outcome : Cycle.Outcome) :
    Agree (Operator.Alike R) (follow key outcome o) (follow key outcome o') := by
  unfold follow
  cases outcome.next with
  | onChange => exact ⟨rfl, h.world.count _, congrArg (·.forget key) h.backoffs, h.storeRetry⟩
  | after delay =>
      dsimp only
      split
      · have hdelay : o.backoffs.pending key = o'.backoffs.pending key :=
          congrArg (·.pending key) h.backoffs
        exact ⟨congrArg FollowUp.after hdelay, h.world.count _, congrArg (·.fail key) h.backoffs,
          h.storeRetry⟩
      · exact ⟨rfl, h.world.count _, congrArg (·.forget key) h.backoffs, h.storeRetry⟩

/-- Cycles that came to the same are followed up alike. -/
theorem settle_agree (h : o.Alike R o') (key : String)
    {played played' : Except Cycle.Stop Cycle.Outcome × World σ π}
    (hplayed : Agree (World.Alike R) played played') :
    Agree (Operator.Alike R) (settle key o played) (settle key o' played') := by
  obtain ⟨result, w⟩ := played
  obtain ⟨result', w'⟩ := played'
  obtain ⟨hresult, hw⟩ := hplayed
  obtain rfl : result = result' := hresult
  cases result with
  | error stop => exact ⟨rfl, hw, h.backoffs, h.storeRetry⟩
  | ok outcome =>
      have hran : ({ o with toWorld := w } : Operator σ π).Alike R { o' with toWorld := w' } :=
        ⟨hw, h.backoffs, h.storeRetry⟩
      obtain ⟨hnext, hafter⟩ := follow_agree hran key outcome
      exact ⟨congrArg Except.ok hnext, hafter⟩

/-- **An event shows nothing of a password**, if one can be drawn where the event comes to an
attempt. -/
theorem handle_agree [SecretStore σ] [RecordSink π] (hR : SecretStore.Conceals R) (h : o.Alike R o')
    {r : Resource} {now : Instant}
    (hdraw : Attempts r now →
      o.entropy.Suffices r.spec.policy ∧ o'.entropy.Suffices r.spec.policy) :
    Agree (Operator.Alike R) (handle r now o) (handle r now o') := by
  cases hk : r.key with
  | error part =>
      rw [handle_of_missing hk, handle_of_missing hk]
      exact ⟨rfl, h⟩
  | ok key =>
      cases hc : course? r now with
      | some c =>
          rw [handle_of_course?_eq_some hk hc, handle_of_course?_eq_some hk hc, ← h.storeRetry]
          obtain ⟨-, -, rfl⟩ := course?_eq_some_iff.1 hc
          rw [← Cycle.run_eq_play, ← Cycle.run_eq_play]
          refine settle_agree h key
            (Cycle.run_agree hR h.world (fun interval hi => ?_) o.storeRetry)
          exact hdraw ⟨key, interval, hk, hc.trans (congrArg some hi)⟩
      | none =>
          -- no cycle is run: the answer is that of resource and clock
          unfold handle
          rw [hk]
          dsimp only
          split
          · exact ⟨rfl, h.world.count _, h.backoffs, h.storeRetry⟩
          · next hs =>
            cases ht : Trigger.classify r now with
            | notDue wait => exact ⟨rfl, h.world.count _, h.backoffs, h.storeRetry⟩
            | idle => exact ⟨rfl, h.world.count _, h.backoffs, h.storeRetry⟩
            | specChanged | manual | due => simp [course?, hs, ht, Trigger.runs] at hc

theorem retry_agree (h : o.Alike R o') (r : Resource) :
    Agree (Operator.Alike R) (retry r o) (retry r o') := by
  have hdelay : o.backoffs.pending (failureKey r) = o'.backoffs.pending (failureKey r) :=
    congrArg (·.pending (failureKey r)) h.backoffs
  exact ⟨congrArg FollowUp.after hdelay, (h.world.count _).count _,
    congrArg (·.fail (failureKey r)) h.backoffs, h.storeRetry⟩

end Event

end CredentialRotation
