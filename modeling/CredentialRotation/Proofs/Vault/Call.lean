import CredentialRotation.Proofs.Vault.Diary
import Mathlib.Data.List.TakeWhile

/-!
# Proofs — Vault — Call

What a client of the vault does while it writes, as its diary has it.

* `Posted`, `LoggedIn`: what happens when a document is posted, and when a service account logs in.
* `Call.went`: the four ways in which a write goes for a service account (`Call.Went`), each with
  all that happens and with the token that is held afterwards.
-/

namespace CredentialRotation

variable {η : Type}

/-! ### Posting and logging in -/

namespace Vault

/-- A document was posted to a path of the vault, or there was no sending it: what happened, and the
reply if there was one. -/
inductive Posted (settings : VaultSettings) (path : String) (token : Option String) (body : Json) :
    List Happening → Option Reply → Prop where
  | unsent : Posted settings path token body [] none
  | sent {url : Url} (hurl : Url.ofText? (addressOf settings path) = some url)
      (reply? : Option Reply) :
      Posted settings path token body [.sent ⟨url, token, settings.scope, body⟩ reply?] reply?

variable [VaultHost η]

theorem posted (settings : VaultSettings) (path : String) (token : Option String) (body : Json)
    (d : Diary η) :
    ∃ happened, Posted settings path token body happened
        (post settings path token body d).1.toOption ∧
      (post settings path token body d).2.entries = d.entries ++ happened := by
  unfold post
  split
  · exact ⟨[], .unsent, (List.append_nil _).symm⟩
  · next url hurl =>
    split
    · exact ⟨[], .unsent, (List.append_nil _).symm⟩
    · split
      · exact ⟨[], .unsent, (List.append_nil _).symm⟩
      · have hentries := d.entries_send ⟨url, token, settings.scope, body⟩
        rcases hsend : VaultHost.send d ⟨url, token, settings.scope, body⟩ with ⟨reply?, d'⟩
        rw [hsend] at hentries
        refine ⟨[.sent ⟨url, token, settings.scope, body⟩ reply?], ?_, ?_⟩
        · cases reply? <;> exact .sent hurl _
        · cases reply? <;> exact hentries

/-- A token that a login gave. -/
structure Grant where
  token : String
  /-- The seconds for which the vault accepts it; without end if there are none. -/
  lease : Nat
  /-- What the clock showed when the token came. -/
  since : Nat

/-- The token as it is held. -/
def Grant.held (g : Grant) : VaultToken := ⟨g.token, (useSpan? g.lease).map (g.since + ·)⟩

/-- The token and the lease that a reply to a login gives. -/
def Reply.gives? (reply : Reply) : Option (String × Nat) :=
  if reply.isSuccess then readLogin? reply.body else none

/-- A service account tried to log in: what happened, and the token that it got. -/
inductive LoggedIn (settings : VaultSettings) (role mount tokenPath : String) :
    List Happening → Option Grant → Prop where
  /-- The file with the token of the service account could not be read. -/
  | unreadable (reason : String) :
      LoggedIn settings role mount tokenPath [.opened tokenPath (.error reason)] none
  /-- The reply gave no token, or there was none. -/
  | refused {jwt : String} {happened : List Happening} {reply? : Option Reply}
      (hposted :
        Posted settings (loginPath mount) none (loginBody role (Text.trim jwt)) happened reply?)
      (hreply : reply?.bind Reply.gives? = none) :
      LoggedIn settings role mount tokenPath (.opened tokenPath (.ok jwt) :: happened) none
  /-- The reply gave a token, and the clock was looked at. -/
  | granted {jwt : String} {url : Url} {reply : Reply} (grant : Grant)
      (hurl : Url.ofText? (addressOf settings (loginPath mount)) = some url)
      (hgives : reply.gives? = some (grant.token, grant.lease)) :
      LoggedIn settings role mount tokenPath
        [.opened tokenPath (.ok jwt),
          .sent ⟨url, none, settings.scope, loginBody role (Text.trim jwt)⟩ (some reply),
          .looked grant.since] (some grant)

theorem loggedIn (settings : VaultSettings) (role mount tokenPath : String) (d : Diary η) :
    ∃ happened grant?, LoggedIn settings role mount tokenPath happened grant? ∧
      (login settings role mount tokenPath d).1.toOption = grant?.map Grant.held ∧
      (login settings role mount tokenPath d).2.entries = d.entries ++ happened := by
  unfold login
  have hfile := d.entries_file tokenPath
  rcases hopened : VaultHost.file d tokenPath with ⟨text, d₁⟩
  rw [hopened] at hfile
  cases text with
  | error reason => exact ⟨_, none, .unreadable reason, rfl, hfile⟩
  | ok jwt =>
      dsimp only at hfile ⊢
      obtain ⟨happened, hposted, hentries⟩ :=
        posted settings (loginPath mount) none (loginBody role (Text.trim jwt)) d₁
      rcases hpost : post settings (loginPath mount) none (loginBody role (Text.trim jwt)) d₁ with
        ⟨result, d₂⟩
      rw [hpost] at hposted hentries
      rw [hfile, List.append_assoc] at hentries
      cases result with
      | error e => exact ⟨_, none, .refused hposted rfl, rfl, hentries⟩
      | ok reply =>
          dsimp only at hentries ⊢
          split
          · next hsuccess =>
            split
            · next hread =>
              refine ⟨_, none, .refused hposted ?_, rfl, hentries⟩
              rw [Except.toOption, Option.bind_some, Reply.gives?, if_pos hsuccess, hread]
            · next token lease hread =>
              have hgives : reply.gives? = some (token, lease) := by
                rw [Reply.gives?, if_pos hsuccess, hread]
              cases hposted with
              | sent hurl _ =>
                  have hlogin : LoggedIn settings role mount tokenPath
                      [.opened tokenPath (.ok jwt), _, _] _ :=
                    .granted ⟨token, lease, (VaultHost.clock d₂).1⟩ hurl hgives
                  refine ⟨_, _, hlogin, rfl, ?_⟩
                  rw [d₂.entries_clock, hentries, List.append_assoc]
                  rfl
          · next hsuccess =>
            refine ⟨_, none, .refused hposted ?_, rfl, hentries⟩
            rw [Except.toOption, Option.bind_some, Reply.gives?, if_neg hsuccess]

/-- The reply says that the token is not accepted. -/
def Reply.refusesToken (reply : Reply) : Bool := reply.status = 401 ∨ reply.status = 403

/-- A reply that carries out a request accepts its token. -/
theorem Reply.refusesToken_of_isSuccess {reply : Reply} (h : reply.isSuccess = true) :
    reply.refusesToken = false := by
  simp only [isSuccess, Bool.and_eq_true, decide_eq_true_eq] at h
  exact decide_eq_false (by omega)

/-- Nothing is left of a path without the slashes at its ends exactly if it is all slashes. -/
theorem trimSlashes_eq_empty_iff {path : String} :
    trimSlashes path = "" ↔ ∀ c ∈ path.toList, c = '/' := by
  have hfront : path.toList.takeWhile (· = '/') ++ path.toList.dropWhile (· = '/') = path.toList :=
    List.takeWhile_append_dropWhile
  rw [← String.toList_eq_nil_iff, trimSlashes, VaultSettings.dropSlashes, dropFrontSlashes,
    String.toList_ofList, String.toList_ofList, List.reverse_eq_nil_iff, List.dropWhile_eq_nil_iff]
  simp only [List.mem_reverse, decide_eq_true_eq]
  constructor
  · intro h c hc
    rw [← hfront] at hc
    rcases List.mem_append.1 hc with hdropped | hkept
    · have hslash := List.mem_takeWhile_imp hdropped
      exact of_decide_eq_true hslash
    · exact h c hkept
  · intro h c hc
    exact h c ((List.dropWhile_sublist _).subset hc)

end Vault

namespace VaultStore

open Vault (Diary Happening Posted LoggedIn Grant Reply)

variable [VaultHost η]

/-- Post a secret with a token. -/
def offer (s : VaultStore η) (path : String) (secret : Secret) (token : Option String) :
    Except StoreError Unit × VaultStore η :=
  match Vault.post s.settings path token (s.secretBody secret) s.host with
  | (.error e, host) => (.error (.transport path (e.message false)), { s with host := host })
  | (.ok reply, host) => settle { s with host := host } path reply

/-- The token that is held after a reply to a write. -/
def keeps (token? : Option VaultToken) (reply? : Option Reply) : Option VaultToken :=
  if reply?.any Reply.refusesToken then none else token?

omit [VaultHost η] in
theorem settle_snd (s : VaultStore η) (path : String) (reply : Reply) :
    (s.settle path reply).2 = { s with cached := keeps s.cached (some reply) } := by
  unfold settle keeps
  rw [Option.any_some]
  split
  · next hsuccess => rw [Reply.refusesToken_of_isSuccess hsuccess, if_neg Bool.false_ne_true]
  · split
    · next hrefuses => rw [if_pos (show reply.refusesToken = true from decide_eq_true hrefuses)]
    · next hrefuses =>
      rw [if_neg (show ¬ reply.refusesToken = true from mt of_decide_eq_true hrefuses)]

theorem offered (s : VaultStore (Diary η)) (path : String) (secret : Secret)
    (token : Option String) :
    ∃ happened reply?, Posted s.settings path token (s.secretBody secret) happened reply? ∧
      (s.offer path secret token).2.host.entries = s.host.entries ++ happened ∧
      (s.offer path secret token).2.cached = keeps s.cached reply? := by
  unfold offer
  obtain ⟨happened, hposted, hentries⟩ :=
    Vault.posted s.settings path token (s.secretBody secret) s.host
  rcases hpost : Vault.post s.settings path token (s.secretBody secret) s.host with ⟨result, d⟩
  rw [hpost] at hposted hentries
  cases result with
  | error e => exact ⟨happened, none, hposted, hentries, rfl⟩
  | ok reply =>
      refine ⟨happened, some reply, hposted, ?_, ?_⟩
      · dsimp only
        rw [settle_snd]
        exact hentries
      · dsimp only
        rw [settle_snd]

theorem settings_token (s : VaultStore η) : s.token.2.settings = s.settings := by
  have hfresh : s.freshToken.2.settings = s.settings := by
    unfold freshToken
    split <;> rfl
  unfold token
  split
  · rfl
  · rfl
  · rcases hf : s.freshToken with ⟨fresh, s'⟩
    rw [hf] at hfresh
    cases fresh with
    | some token => exact hfresh
    | none =>
        dsimp only
        split <;> exact hfresh

/-- A write leaves the settings alone. -/
theorem settings_write (s : VaultStore η) (path : String) (secret : Secret) :
    (s.write path secret).2.settings = s.settings := by
  have htoken := s.settings_token
  unfold write
  split
  · rfl
  · rcases ht : s.token with ⟨token, s'⟩
    rw [ht] at htoken
    cases token with
    | error reason => exact htoken
    | ok token =>
        dsimp only
        split
        · exact htoken
        · rw [settle_snd]
          exact htoken

/-- A write, with the store that it met. -/
structure Call (η : Type) where
  store : VaultStore η
  path : String
  secret : Secret

namespace Call

variable (c : Call η)

/-- What became of the write, and of the store with a new diary. -/
def ran : Except StoreError Unit × VaultStore (Diary η) := c.store.diarized.write c.path c.secret

/-- How the write ended. -/
def answer : Except StoreError Unit := c.ran.1

/-- What happened meanwhile. -/
def entries : List Happening := c.ran.2.host.entries

/-- The store after the write. -/
def after : VaultStore η := c.ran.2.plain

theorem write_eq : c.store.write c.path c.secret = (c.answer, c.after) :=
  write_bare c.store.diarized c.path c.secret

theorem snd_write_eq : (c.store.write c.path c.secret).2 = c.after := by
  rw [write_eq]

/-- What the clock shows when the write begins. -/
def now : Nat := (VaultHost.clock c.store.host).1

/-- There is nothing to write to: the path is all slashes. -/
def IsIdle : Prop := ∀ ch ∈ c.path.toList, ch = '/'

/-- The token that is held, if it may still be used. -/
def fresh? : Option VaultToken := c.store.cached.filter (·.isFresh c.now)

/-- A token that is held is looked at before it is used. -/
def looks : List Happening := c.store.cached.toList.map fun _ => .looked c.now

/-- How a write goes for a service account. -/
inductive Went (role mount tokenPath : String) : Prop where
  /-- There is nothing to write to. -/
  | idle (hidle : c.IsIdle) (hentries : c.entries = []) (hcached : c.after.cached = c.store.cached)
  /-- The token that is held is used. -/
  | reused {token : VaultToken} {happened : List Happening} {reply? : Option Reply}
      (hidle : ¬ c.IsIdle) (hfresh : c.fresh? = some token)
      (hposted : Posted c.store.settings c.path (some token.value) (c.store.secretBody c.secret)
        happened reply?)
      (hentries : c.entries = c.looks ++ happened)
      (hcached : c.after.cached = keeps (some token) reply?)
  /-- No token may be used, and the login gives none. -/
  | failed {happened : List Happening} (hidle : ¬ c.IsIdle) (hfresh : c.fresh? = none)
      (hlogin : LoggedIn c.store.settings role mount tokenPath happened none)
      (hentries : c.entries = c.looks ++ happened) (hcached : c.after.cached = c.store.cached)
      (hanswer : ∃ reason, c.answer = .error reason)
  /-- No token may be used, and the login gives one. -/
  | renewed {grant : Grant} {before happened : List Happening} {reply? : Option Reply}
      (hidle : ¬ c.IsIdle) (hfresh : c.fresh? = none)
      (hlogin : LoggedIn c.store.settings role mount tokenPath before (some grant))
      (hposted : Posted c.store.settings c.path (some grant.token) (c.store.secretBody c.secret)
        happened reply?)
      (hentries : c.entries = c.looks ++ before ++ happened)
      (hcached : c.after.cached = keeps (some grant.held) reply?)

variable {c} {role mount tokenPath : String}

/-- Nothing is asked of the surroundings where there is nothing to write to. -/
theorem ran_of_isIdle (hidle : c.IsIdle) :
    c.ran = (.error (.configuration "empty store path"), c.store.diarized) := by
  rw [ran, write, if_pos (Vault.trimSlashes_eq_empty_iff.2 hidle)]

theorem entries_of_isIdle (hidle : c.IsIdle) : c.entries = [] := by
  rw [entries, c.ran_of_isIdle hidle]
  rfl

theorem after_of_isIdle (hidle : c.IsIdle) : c.after = c.store := by
  rw [after, c.ran_of_isIdle hidle]
  rfl

theorem settings_after (c : Call η) : c.after.settings = c.store.settings := by
  rw [← snd_write_eq, settings_write]

theorem write_of_not_isIdle (hidle : ¬ c.IsIdle) :
    c.ran = match c.store.diarized.token with
      | (.error e, s) => (.error e, s)
      | (.ok token, s) => s.offer c.path c.secret token := by
  rw [ran, write, if_neg (mt Vault.trimSlashes_eq_empty_iff.1 hidle)]
  rcases c.store.diarized.token with ⟨token, s⟩
  cases token <;> rfl

/-- What is held is asked for its age, where something is held. -/
theorem freshToken_diarized :
    c.store.diarized.freshToken.1 = c.fresh? ∧
      c.store.diarized.freshToken.2.settings = c.store.settings ∧
      c.store.diarized.freshToken.2.cached = c.store.cached ∧
      c.store.diarized.freshToken.2.host.entries = c.looks := by
  obtain ⟨⟨settings, cached, host⟩, path, secret⟩ := c
  cases cached with
  | none => exact ⟨rfl, rfl, rfl, rfl⟩
  | some token => exact ⟨rfl, rfl, rfl, rfl⟩

/-- **How a write goes for a service account.** -/
theorem went (hauth : c.store.settings.auth = .serviceAccount role mount tokenPath) :
    c.Went role mount tokenPath := by
  by_cases hidle : c.IsIdle
  · exact .idle hidle (c.entries_of_isIdle hidle)
      (congrArg VaultStore.cached (c.after_of_isIdle hidle))
  · have hran := c.write_of_not_isIdle hidle
    obtain ⟨hfresh, hsettings, hcached, hlooks⟩ := c.freshToken_diarized
    rw [token, show c.store.diarized.settings = c.store.settings from rfl, hauth] at hran
    dsimp only at hran
    rcases hf : c.store.diarized.freshToken with ⟨fresh, s⟩
    rw [hf] at hran hfresh hsettings hcached hlooks
    dsimp only at hran hfresh hsettings hcached hlooks
    cases fresh with
    | some token =>
        dsimp only at hran
        have hheld : c.store.cached = some token := (Option.filter_eq_some_iff.1 hfresh.symm).1
        obtain ⟨happened, reply?, hposted, hentries, hkeeps⟩ :=
          s.offered c.path c.secret (some token.value)
        rw [hsettings, secretBody, hsettings] at hposted
        refine .reused hidle hfresh.symm hposted ?_ ?_
        · rw [entries, hran, hentries, hlooks]
        · rw [after, hran, ← hheld, ← hcached]
          exact hkeeps
    | none =>
        dsimp only at hran
        obtain ⟨before, grant?, hlogin, hresult, hbefore⟩ :=
          Vault.loggedIn s.settings role mount tokenPath s.host
        rcases hl : Vault.login s.settings role mount tokenPath s.host with ⟨result, d⟩
        rw [hl] at hran hresult hbefore
        rw [hsettings] at hlogin
        cases result with
        | error reason =>
            obtain rfl : grant? = none := Option.map_eq_none_iff.1 hresult.symm
            refine .failed hidle hfresh.symm hlogin ?_ ?_ ⟨reason, ?_⟩
            · rw [entries, hran]
              exact hbefore.trans (congrArg (· ++ before) hlooks)
            · rw [after, hran]
              exact hcached
            · rw [answer, hran]
        | ok token =>
            obtain ⟨grant, rfl, rfl⟩ := Option.map_eq_some_iff.1 hresult.symm
            dsimp only at hran hbefore
            obtain ⟨happened, reply?, hposted, hentries, hkeeps⟩ :=
              ({ s with cached := some grant.held, host := d } : VaultStore (Diary η)).offered
                c.path c.secret (some grant.token)
            rw [secretBody] at hposted
            dsimp only at hposted hentries hkeeps
            rw [hsettings] at hposted
            refine .renewed hidle hfresh.symm hlogin hposted ?_ ?_
            · rw [entries, hran, ← hlooks, ← hbefore]
              exact hentries
            · rw [after, hran]
              exact hkeeps

end Call

end VaultStore

end CredentialRotation
