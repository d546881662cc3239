import CredentialRotation.Proofs.Vault.Shown

/-!
# Proofs — Vault — Token

The life of a token.  A service account has one by logging in, and a store that is written to time
and again keeps it as long as nine tenths of its lease are not over and no write was refused for it.

What a write did is read off its diary (`Call.requests`, `Call.grant?`, `Call.isRejected`), and what
came of the writes before it off theirs alone: whether a login gave a token that may still be used
(`Usable`), and which token was the last (`latest?`).  The store knows neither of these; all it has
is the one token that it holds.

* `Remembers.after`: that is enough, as long as the clock does not go back.
* `calls_proper`: so whatever the vault answers and the file holds, writes log in exactly when they
  have to, and carry the token of the last login.
-/

namespace CredentialRotation

variable {η : Type}

/-- A token that may be used could be used before. -/
theorem VaultToken.isFresh_of_le {token : VaultToken} {now earlier : Nat}
    (h : token.isFresh now = true) (hle : earlier ≤ now) : token.isFresh earlier = true := by
  unfold isFresh at h ⊢
  split at h
  · exact decide_eq_true (Nat.lt_of_le_of_lt hle (of_decide_eq_true h))
  · rfl

namespace Vault

/-- The token may be used at `now`: it never ends, or it is younger than nine tenths of its lease in
whole seconds. -/
def Grant.IsYoung (g : Grant) (now : Nat) : Prop :=
  g.lease = 0 ∨ now < g.since + Span.ofSeconds (9 * g.lease / 10)

instance (g : Grant) (now : Nat) : Decidable (g.IsYoung now) := inferInstanceAs (Decidable (_ ∨ _))

/-- The lease is one that nine tenths can be worked out of in 64 bits. -/
def Grant.IsBounded (g : Grant) : Prop := 9 * g.lease < Word.limit64

theorem Grant.IsYoung.mono {g : Grant} {now earlier : Nat} (h : g.IsYoung now)
    (hle : earlier ≤ now) :
    g.IsYoung earlier :=
  h.imp_right (Nat.lt_of_le_of_lt hle)

theorem Grant.isFresh_held_iff {g : Grant} (h : g.IsBounded) {now : Nat} :
    g.held.isFresh now = true ↔ g.IsYoung now := by
  have hbound : min (g.lease * 9) (Word.limit64 - 1) = 9 * g.lease := by
    unfold IsBounded at h
    omega
  unfold IsYoung held VaultToken.isFresh useSpan?
  by_cases hzero : g.lease = 0
  · simp [hzero]
  · simp only [hzero, if_false, hbound, Option.map_some, decide_eq_true_eq, false_or]

end Vault

namespace VaultStore

open Vault (Grant Request)

variable [VaultHost η]

namespace Call

/-! ### What a write has to use -/

variable {c : Call η}

theorem fresh?_eq_some_iff {token : VaultToken} :
    c.fresh? = some token ↔ c.store.cached = some token ∧ token.isFresh c.now = true :=
  Option.filter_eq_some_iff

/-- Where the secret is written, a login was sent before exactly if no token that is held may be
used. -/
theorem Shows.logins_iff (h : c.Shows) (hne : c.writes ≠ []) : c.logins ≠ [] ↔ c.fresh? = none := by
  cases h with
  | idle _ hentries =>
      rw [writes, requests, hentries] at hne
      exact absurd rfl hne
  | reused _ hfresh _ _ hlogins => simp [hfresh, hlogins]
  | failed _ _ _ _ hwrites => exact absurd hwrites hne
  | renewed _ hfresh _ _ hlogins => simp [hfresh, hlogins]

/-- A login that gives no token ends the write, and leaves what is held. -/
theorem Shows.of_failed (h : c.Shows) (hlogs : c.logsIn = true) (hnone : c.grant? = none) :
    c.writes = [] ∧ (∃ reason, c.answer = .error reason) ∧ c.fresh? = none ∧
      c.after.cached = c.store.cached := by
  cases h with
  | idle _ hentries =>
      rw [logsIn, hentries] at hlogs
      cases hlogs
  | reused _ _ hlogsIn => cases hlogs.symm.trans hlogsIn
  | failed _ hfresh _ _ hwrites _ hcached hanswer => exact ⟨hwrites, hanswer, hfresh, hcached⟩
  | renewed _ _ _ hgrant => cases hnone.symm.trans hgrant

/-- A token that may be used is. -/
theorem Shows.of_fresh (h : c.Shows) (hidle : ¬ c.IsIdle) {token : VaultToken}
    (hfresh : c.fresh? = some token) :
    c.logsIn = false ∧ ∀ w ∈ c.writes, w.token = some token.value := by
  cases h with
  | idle hnothing => exact absurd hnothing hidle
  | failed _ hnone => cases hnone.symm.trans hfresh
  | renewed _ hnone => cases hnone.symm.trans hfresh
  | reused _ hsome hlogsIn _ _ hwrites =>
      obtain rfl := Option.some.inj (hsome.symm.trans hfresh)
      exact ⟨hlogsIn, hwrites⟩

/-- A login is tried exactly if no token that is held may be used. -/
theorem Shows.logsIn_iff (h : c.Shows) (hidle : ¬ c.IsIdle) :
    c.logsIn = true ↔ c.fresh? = none := by
  cases h with
  | idle hnothing => exact absurd hnothing hidle
  | reused _ hfresh hlogsIn => simp [hfresh, hlogsIn]
  | failed _ hfresh hlogsIn => simp [hfresh, hlogsIn]
  | renewed _ hfresh hlogsIn => simp [hfresh, hlogsIn]

/-- A write that had a token, and whose token was not refused, leaves one to be held. -/
theorem Shows.exists_held (h : c.Shows) (hidle : ¬ c.IsIdle)
    (hgot : c.logsIn = true → c.grant? ≠ none)
    (hrejected : c.isRejected = false) : ∃ token, c.after.cached = some token := by
  cases h with
  | idle hnothing => exact absurd hnothing hidle
  | failed _ _ hlogsIn hgrant => exact absurd hgrant (hgot hlogsIn)
  | reused _ _ _ _ _ _ hcached =>
      rw [hrejected, if_neg Bool.false_ne_true] at hcached
      exact ⟨_, hcached⟩
  | renewed _ _ _ _ _ _ hcached =>
      rw [hrejected, if_neg Bool.false_ne_true] at hcached
      exact ⟨_, hcached⟩

/-- A token that may not be used any more may not be used later. -/
theorem fresh?_eq_none_of_le {d : Call η} (h : c.fresh? = none)
    (hcached : d.store.cached = c.store.cached) (hle : c.now ≤ d.now) : d.fresh? = none := by
  refine Option.eq_none_iff_forall_ne_some.2 fun token hd => ?_
  obtain ⟨hheld, hyoung⟩ := fresh?_eq_some_iff.1 hd
  have hearlier : c.fresh? = some token :=
    fresh?_eq_some_iff.2 ⟨hcached ▸ hheld, VaultToken.isFresh_of_le hyoung hle⟩
  rw [hearlier] at h
  cases h

end Call

/-! ### What the writes before it did -/

/-- The writes since the last one whose token was refused, the latest first. -/
def sinceRejection (past : List (Call η)) : List (Call η) :=
  past.reverse.takeWhile fun c => !c.isRejected

/-- Since then a login gave a token that may be used at `now`. -/
def Usable (past : List (Call η)) (now : Nat) : Prop :=
  ∃ c ∈ sinceRejection past, ∃ g, c.grant? = some g ∧ g.IsYoung now

/-- The token of the last login that gave one. -/
def latest? (past : List (Call η)) : Option Grant := (past.filterMap Call.grant?).getLast?

theorem usable_append {past : List (Call η)} {c : Call η} {now : Nat} :
    Usable (past ++ [c]) now ↔
      c.isRejected = false ∧ ((∃ g, c.grant? = some g ∧ g.IsYoung now) ∨ Usable past now) := by
  unfold Usable sinceRejection
  rw [List.reverse_append, List.reverse_singleton, List.singleton_append, List.takeWhile_cons]
  cases c.isRejected <;> simp

/-- A token that may be used could be used before. -/
theorem Usable.mono {past : List (Call η)} {now earlier : Nat} (h : Usable past now)
    (hle : earlier ≤ now) : Usable past earlier := by
  obtain ⟨c, hc, g, hg, hyoung⟩ := h
  exact ⟨c, hc, g, hg, hyoung.mono hle⟩

theorem latest?_append (past : List (Call η)) (c : Call η) :
    latest? (past ++ [c]) = c.grant?.or (latest? past) := by
  unfold latest?
  rw [List.filterMap_append, List.getLast?_append]
  cases hg : c.grant? <;> simp [hg]

/-- A store holds, after these writes, what can be known of tokens from them: whether there is one
that may be used, and which one was the last. -/
structure Remembers (past : List (Call η)) (s : VaultStore η) : Prop where
  usable_iff : ∀ now, (∀ c ∈ past, c.now ≤ now) →
    (Usable past now ↔ ∃ token, s.cached = some token ∧ token.isFresh now = true)
  latest : ∀ token, s.cached = some token →
    ∃ g, latest? past = some g ∧ g.IsBounded ∧ token = g.held

/-- A new store holds nothing. -/
theorem remembers_nil {s : VaultStore η} (h : s.cached = none) : Remembers [] s := by
  refine ⟨fun now _ => ?_, fun token ht => ?_⟩
  · simp [Usable, sinceRejection, h]
  · rw [h] at ht
    cases ht

namespace Remembers

variable {past : List (Call η)} {c : Call η}

/-- A write that neither gets a token nor has one refused leaves what is held. -/
theorem keep (h : Remembers past c.store) (hgrant : c.grant? = none)
    (hrejected : c.isRejected = false)
    (hcached : c.after.cached = c.store.cached) : Remembers (past ++ [c]) c.after := by
  refine ⟨fun now hnow => ?_, fun token ht => ?_⟩
  · have hpast := h.usable_iff now fun p hp => hnow p (List.mem_append_left _ hp)
    rw [usable_append, hcached, ← hpast]
    simp [hgrant, hrejected]
  · rw [latest?_append, hgrant, Option.none_or]
    exact h.latest token (hcached ▸ ht)

/-- A write whose token is refused leaves nothing to be held. -/
theorem drop (hrejected : c.isRejected = true) (hcached : c.after.cached = none) :
    Remembers (past ++ [c]) c.after := by
  refine ⟨fun now hnow => ?_, fun token ht => ?_⟩
  · simp [usable_append, hrejected, hcached]
  · rw [hcached] at ht
    cases ht

/-- A write that gets a token leaves that one; the one before may not be used any more. -/
theorem renew (h : Remembers past c.store) {g : Grant} (hclock : ∀ p ∈ past, p.now ≤ c.now)
    (hfresh : c.fresh? = none) (hgrant : c.grant? = some g) (hbounded : g.IsBounded)
    (hrejected : c.isRejected = false) (hcached : c.after.cached = some g.held) :
    Remembers (past ++ [c]) c.after := by
  refine ⟨fun now hnow => ?_, fun token ht => ?_⟩
  · have hstale : ¬ Usable past now := by
      intro husable
      have hle : c.now ≤ now := hnow c (List.mem_append_right _ (List.mem_singleton_self c))
      obtain ⟨token, hheld⟩ := (h.usable_iff c.now hclock).1 (husable.mono hle)
      rw [Call.fresh?_eq_some_iff.2 hheld] at hfresh
      cases hfresh
    rw [usable_append, hcached]
    simp [hgrant, hrejected, hstale, Grant.isFresh_held_iff hbounded]
  · refine ⟨g, ?_, hbounded, ?_⟩
    · rw [latest?_append, hgrant, Option.some_or]
    · rw [hcached] at ht
      exact (Option.some.inj ht).symm

/-- **One more write.** -/
theorem after (h : Remembers past c.store) (hshows : c.Shows) (hclock : ∀ p ∈ past, p.now ≤ c.now)
    (hlease : ∀ g, c.grant? = some g → g.IsBounded) : Remembers (past ++ [c]) c.after := by
  cases hshows with
  | idle hidle hentries hcached =>
      refine h.keep ?_ ?_ hcached
      · rw [Call.grant?, hentries]
        rfl
      · rw [Call.isRejected, hentries]
        rfl
  | reused hidle hfresh hlogsIn hgrant hlogins hwrites hcached =>
      obtain ⟨hheld, -⟩ := Call.fresh?_eq_some_iff.1 hfresh
      cases hrejected : c.isRejected with
      | true =>
          rw [hrejected, if_pos rfl] at hcached
          exact drop hrejected hcached
      | false =>
          rw [hrejected, if_neg Bool.false_ne_true, ← hheld] at hcached
          exact h.keep hgrant hrejected hcached
  | failed hidle hfresh hlogsIn hgrant hwrites hrejected hcached hanswer =>
      exact h.keep hgrant hrejected hcached
  | renewed hidle hfresh hlogsIn hgrant hlogins hwrites hcached =>
      cases hrejected : c.isRejected with
      | true =>
          rw [hrejected, if_pos rfl] at hcached
          exact drop hrejected hcached
      | false =>
          rw [hrejected, if_neg Bool.false_ne_true] at hcached
          exact h.renew hclock hfresh hgrant (hlease _ hgrant) hrejected hcached

/-- No token that is held may be used exactly if no login gave one that may be. -/
theorem fresh?_eq_none_iff (h : Remembers past c.store) (hclock : ∀ p ∈ past, p.now ≤ c.now) :
    c.fresh? = none ↔ ¬ Usable past c.now := by
  rw [h.usable_iff c.now hclock, Option.eq_none_iff_forall_ne_some, not_exists]
  exact forall_congr' fun token => not_congr Call.fresh?_eq_some_iff

/-- The secret is written with the token of the last login that gave one. -/
theorem carries (h : Remembers past c.store) (hshows : c.Shows) {w : Request} (hw : w ∈ c.writes) :
    ∃ g, latest? (past ++ [c]) = some g ∧ w.token = some g.token := by
  rw [latest?_append]
  cases hshows with
  | idle hidle hentries =>
      rw [Call.writes, Call.requests, hentries] at hw
      cases hw
  | failed _ _ _ _ hwrites =>
      rw [hwrites] at hw
      cases hw
  | reused _ hfresh _ hgrant _ hwrites =>
      obtain ⟨g, hg, -, rfl⟩ := h.latest _ (Call.fresh?_eq_some_iff.1 hfresh).1
      rw [hgrant, Option.none_or]
      exact ⟨g, hg, hwrites w hw⟩
  | renewed _ _ _ hgrant _ hwrites =>
      rw [hgrant, Option.some_or]
      exact ⟨_, rfl, hwrites w hw⟩

end Remembers

/-! ### Runs -/

/-- What may happen next to a store. -/
inductive Turn (η : Type) where
  /-- It is written to. -/
  | write (path : String) (secret : Secret)
  /-- Its surroundings go on in another state. -/
  | host (host : η)

/-- The writes among these turns, each with the store that it met. -/
def calls (s : VaultStore η) : List (Turn η) → List (Call η)
  | [] => []
  | .write path secret :: turns => ⟨s, path, secret⟩ :: (s.write path secret).2.calls turns
  | .host host :: turns => calls { s with host := host } turns

/-- The next write, after these, that has something to write to. -/
def IsNext (d : Call η) (later : List (Call η)) : Prop :=
  ∃ skipped rest, later = skipped ++ d :: rest ∧ (∀ e ∈ skipped, e.IsIdle) ∧ ¬ d.IsIdle

/-- It meets the token that is held now. -/
theorem IsNext.store_eq {s : VaultStore η} {turns : List (Turn η)} {d : Call η}
    (h : IsNext d (s.calls turns)) :
    d.store.cached = s.cached ∧ d.store.settings = s.settings ∧ ¬ d.IsIdle := by
  obtain ⟨skipped, rest, hcalls, hskipped, hidle⟩ := h
  induction turns generalizing s skipped with
  | nil => exact absurd hcalls.symm (List.append_ne_nil_of_right_ne_nil _ (List.cons_ne_nil _ _))
  | cons turn turns ih =>
      cases turn with
      | host host =>
          have hrest : calls { s with host := host } turns = skipped ++ d :: rest := hcalls
          have hmet := ih skipped hrest hskipped
          exact hmet
      | write path secret =>
          cases skipped with
          | nil =>
              obtain ⟨rfl, -⟩ := List.cons.inj hcalls
              exact ⟨rfl, rfl, hidle⟩
          | cons first skipped =>
              obtain ⟨rfl, hrest⟩ := List.cons.inj hcalls
              obtain ⟨hfirst, hothers⟩ := List.forall_mem_cons.1 hskipped
              have hwrite : (s.write path secret).2 = s :=
                (Call.snd_write_eq ⟨s, path, secret⟩).trans (Call.after_of_isIdle hfirst)
              rw [hwrite] at hrest
              exact ih skipped hrest hothers

/-- **Every write of a run** meets a store that holds what can be known from the writes before it,
and the run goes on from the store that it leaves. -/
theorem remembers_calls {seen : List (Call η)} {s : VaultStore η} {turns : List (Turn η)}
    {role mount tokenPath : String} (h : Remembers seen s)
    (hauth : s.settings.auth = .serviceAccount role mount tokenPath)
    (hclock : (seen ++ s.calls turns).Pairwise fun c d => c.now ≤ d.now)
    (hlease : ∀ c ∈ s.calls turns, ∀ g, c.grant? = some g → g.IsBounded)
    {past : List (Call η)} {c : Call η} {later : List (Call η)}
    (hcalls : s.calls turns = past ++ c :: later) :
    Remembers (seen ++ past) c.store ∧ c.store.settings = s.settings ∧
      ∃ rest, later = c.after.calls rest := by
  -- along the turns; what was seen grows by the write that a turn makes
  induction turns generalizing seen s past with
  | nil => exact absurd hcalls.symm (List.append_ne_nil_of_right_ne_nil _ (List.cons_ne_nil _ _))
  | cons turn turns ih =>
      cases turn with
      | host host =>
          have hsame : Remembers seen { s with host := host } := ⟨h.usable_iff, h.latest⟩
          exact ih hsame hauth hclock hlease hcalls
      | write path secret =>
          let first : Call η := ⟨s, path, secret⟩
          have hrun : s.calls (.write path secret :: turns) = first :: first.after.calls turns := by
            rw [calls, show (s.write path secret).2 = first.after from first.snd_write_eq]
          rw [hrun] at hcalls hclock hlease
          obtain ⟨hfirst, hothers⟩ := List.forall_mem_cons.1 hlease
          cases past with
          | nil =>
              obtain ⟨rfl, rfl⟩ := List.cons.inj hcalls
              exact ⟨(List.append_nil seen).symm ▸ h, rfl, turns, rfl⟩
          | cons first' past =>
              obtain ⟨rfl, hrest⟩ := List.cons.inj hcalls
              have hbefore : ∀ p ∈ seen, p.now ≤ first.now := fun p hp =>
                (List.pairwise_append.1 hclock).2.2 p hp first List.mem_cons_self
              have hnext := h.after (Call.went hauth).shows hbefore hfirst
              rw [← List.singleton_append, ← List.append_assoc] at hclock
              obtain ⟨hmet, hsettings, hlater⟩ :=
                ih hnext (by rw [first.settings_after]; exact hauth) hclock hothers hrest
              refine ⟨?_, hsettings.trans first.settings_after, hlater⟩
              rwa [List.append_assoc, List.singleton_append] at hmet

/-- A write keeps to the life of its token, after these writes and before those. -/
structure Call.IsProper (role mount : String) (past : List (Call η)) (c : Call η)
    (later : List (Call η)) : Prop where
  /-- Nothing happens where there is nothing to write to. -/
  idle : c.IsIdle → c.entries = []
  /-- At most one login is sent, and then at most one request that writes the secret. -/
  requests : c.requests = c.logins ++ c.writes ∧ c.logins.length ≤ 1 ∧ c.writes.length ≤ 1 ∧
    (∀ r ∈ c.logins, r.IsLogin c.store.settings role mount) ∧ ∀ r ∈ c.writes, c.IsWrite r
  /-- A login is tried exactly if no token may be used. -/
  logsIn_iff : ¬ c.IsIdle → (c.logsIn = true ↔ ¬ Usable past c.now)
  /-- Where the secret is written, a login was sent before exactly then. -/
  precedes : c.writes ≠ [] → (c.logins ≠ [] ↔ ¬ Usable past c.now)
  /-- The secret is written with the token of the last login that gave one. -/
  carries : ∀ w ∈ c.writes, ∃ g, latest? (past ++ [c]) = some g ∧ w.token = some g.token
  /-- After a login that gave no token nothing is written, and the next write logs in again. -/
  failed : c.logsIn = true → c.grant? = none →
    c.writes = [] ∧ (∃ reason, c.answer = .error reason) ∧
    ∀ d, IsNext d later → d.logsIn = true
  /-- A write that had a token, however it ended, leaves it to the next one, unless it was
  refused. -/
  kept : ¬ c.IsIdle → (c.logsIn = true → c.grant? ≠ none) → c.isRejected = false →
    ∃ g, latest? (past ++ [c]) = some g ∧ ∀ d, IsNext d later → g.IsYoung d.now →
      d.logsIn = false ∧ ∀ w ∈ d.writes, w.token = some g.token

/-- **The life of a token.**  A new store with a service account is written to time and again, and
between the writes the vault, the file and the clock may do what they like; only, no write begins
before an earlier one, and nine tenths of a lease can be worked out in 64 bits.  Then every write
keeps to the life of its token. -/
theorem calls_proper {s : VaultStore η} {turns : List (Turn η)} {role mount tokenPath : String}
    (hauth : s.settings.auth = .serviceAccount role mount tokenPath) (hnew : s.cached = none)
    (hclock : (s.calls turns).Pairwise fun c d => c.now ≤ d.now)
    (hlease : ∀ c ∈ s.calls turns, ∀ g, c.grant? = some g → g.IsBounded)
    {past : List (Call η)} {c : Call η} {later : List (Call η)}
    (hcalls : s.calls turns = past ++ c :: later) : c.IsProper role mount past later := by
  obtain ⟨hmet, hsettings, rest, rfl⟩ :=
    remembers_calls (remembers_nil hnew) hauth hclock hlease hcalls
  rw [List.nil_append] at hmet
  rw [hcalls] at hclock hlease
  have hbefore : ∀ p ∈ past, p.now ≤ c.now := fun p hp =>
    (List.pairwise_append.1 hclock).2.2 p hp c List.mem_cons_self
  have hgranted := hlease c (List.mem_append_right _ List.mem_cons_self)
  have hcauth : c.store.settings.auth = .serviceAccount role mount tokenPath := by
    rw [hsettings, hauth]
  have hwent : c.Went role mount tokenPath := Call.went hcauth
  have hshows := hwent.shows
  have hafter := hmet.after hshows hbefore hgranted
  -- what the next write meets
  have hnext : ∀ d, IsNext d (c.after.calls rest) →
      d.store.cached = c.after.cached ∧ d.Shows ∧ ¬ d.IsIdle ∧ c.now ≤ d.now := by
    intro d hd
    obtain ⟨hcached, hset, hidle⟩ := hd.store_eq
    rw [c.settings_after] at hset
    obtain ⟨skipped, others, hlater, -, -⟩ := hd
    have hmem : d ∈ c.after.calls rest := hlater ▸ List.mem_append_right _ List.mem_cons_self
    have hle := (List.pairwise_cons.1 (List.pairwise_append.1 hclock).2.1).1 d hmem
    exact ⟨hcached, (Call.went (hset ▸ hcauth)).shows, hidle, hle⟩
  refine ⟨c.entries_of_isIdle, hwent.sends, fun hidle => ?_, fun hne => ?_,
    fun w hw => hmet.carries hshows hw, fun hlogs hnone => ?_, fun hidle hgot hrejected => ?_⟩
  · rw [hshows.logsIn_iff hidle, hmet.fresh?_eq_none_iff hbefore]
  · rw [hshows.logins_iff hne, hmet.fresh?_eq_none_iff hbefore]
  · obtain ⟨hwrites, hanswer, hfresh, hcached⟩ := hshows.of_failed hlogs hnone
    refine ⟨hwrites, hanswer, fun d hd => ?_⟩
    obtain ⟨hheld, hdshows, hdidle, hle⟩ := hnext d hd
    exact (hdshows.logsIn_iff hdidle).2 (Call.fresh?_eq_none_of_le hfresh (hheld.trans hcached) hle)
  · obtain ⟨token, htoken⟩ := hshows.exists_held hidle hgot hrejected
    obtain ⟨g, hlatest, hbounded, rfl⟩ := hafter.latest token htoken
    refine ⟨g, hlatest, fun d hd hyoung => ?_⟩
    obtain ⟨hheld, hdshows, hdidle, -⟩ := hnext d hd
    have hfresh : d.fresh? = some g.held :=
      Call.fresh?_eq_some_iff.2 ⟨hheld.trans htoken, (Grant.isFresh_held_iff hbounded).2 hyoung⟩
    exact hdshows.of_fresh hdidle hfresh

end VaultStore

/-! ### A specimen -/

namespace Specimen

/-- A new store, and a vault that gives a token for ten seconds and is sealed after the first
write. -/
def vault : VaultStore ScriptedHost where
  settings := { VaultSettings.standard with
    address := "http://v"
    auth := .serviceAccount "rotator" "kubernetes" "/token" }
  cached := none
  host :=
    { time := 0
      tokenFile := some "jwt"
      reachable := true
      replies :=
        [some ⟨200, "\x7b\"auth\":\x7b\"client_token\":\"t1\",\"lease_duration\":10\x7d\x7d"⟩,
          some ⟨204, ""⟩, some ⟨503, "sealed"⟩]
      requests := [] }

/-- Two writes, and two more when nine tenths of the lease are over.  The vault does not log in the
first of these, and does not accept the token that it gives to the second. -/
def renewal : List (VaultStore.Turn ScriptedHost) :=
  [.write "s" ⟨"pw"⟩, .write "s" ⟨"pw"⟩,
    .host
      { time := 9000001000
        tokenFile := some "jwt"
        reachable := true
        replies :=
          [some ⟨500, "sealed"⟩,
            some ⟨200, "\x7b\"auth\":\x7b\"client_token\":\"t2\"\x7d\x7d"⟩,
            some ⟨403, "denied"⟩]
        requests := [] },
    .write "s" ⟨"pw"⟩, .write "s" ⟨"pw"⟩]

end Specimen

namespace VaultStore

/-- What its diary shows of a write, at a glance. -/
def Call.glance [VaultHost η] (c : Call η) : Nat × Option Nat × Bool × List (Option String) :=
  (c.now, c.grant?.map (·.lease), c.logsIn, c.writes.map (·.token))

/-- The second write uses the token of the first, and the third one has to log in. -/
theorem renewal_proper :
    (Specimen.vault.calls Specimen.renewal).map Call.glance =
        [(0, some 10, true, [some "t1"]), (1000, none, false, [some "t1"]),
          (9000001000, none, true, []), (9000002000, some 0, true, [some "t2"])] ∧
      ∃ past c later, Specimen.vault.calls Specimen.renewal = past ++ c :: later ∧ past.length = 2 ∧
        c.IsProper "rotator" "kubernetes" past later := by
  have hglance : (Specimen.vault.calls Specimen.renewal).map Call.glance =
      [(0, some 10, true, [some "t1"]), (1000, none, false, [some "t1"]),
        (9000001000, none, true, []), (9000002000, some 0, true, [some "t2"])] := by
    decide +kernel
  have hclock : (Specimen.vault.calls Specimen.renewal).Pairwise fun c d => c.now ≤ d.now := by
    have hnow := congrArg (List.map (·.1)) hglance
    rw [List.map_map] at hnow
    exact List.pairwise_map.1 (hnow ▸ by decide)
  have hlease :
      ∀ c ∈ Specimen.vault.calls Specimen.renewal, ∀ g, c.grant? = some g → g.IsBounded := by
    intro c hc g hg
    have hmem :
        c.glance.2.1 ∈ ((Specimen.vault.calls Specimen.renewal).map Call.glance).map (·.2.1) :=
      List.mem_map_of_mem (List.mem_map_of_mem hc)
    have hgiven : c.glance.2.1 = some g.lease := by
      rw [Call.glance, hg]
      rfl
    rw [hglance, hgiven] at hmem
    have hsmall : g.lease = 10 ∨ g.lease = 0 := by simpa using hmem
    show 9 * g.lease < Word.limit64
    rcases hsmall with h | h <;> rw [h] <;> decide
  refine ⟨hglance, (Specimen.vault.calls Specimen.renewal).take 2, _,
    (Specimen.vault.calls Specimen.renewal).drop 3, rfl, rfl, ?_⟩
  exact calls_proper rfl rfl hclock hlease rfl

end VaultStore

end CredentialRotation
