import CredentialRotation.Proofs.Vault.Call

/-!
# Proofs — Vault — Shown

What the diary of a write shows: the requests that were sent, told apart by whether they carry a
token; whether a login was tried, and the token that it gave; and whether the vault refused the
token of a write.

* `Went.sends`: at most one login is sent, and after it at most one request that writes the secret.
* `Went.shows`: of each way in which a write goes, what is shown (`Call.Shows`).
-/

namespace CredentialRotation

variable {η : Type}

namespace Vault

namespace Happening

/-- The request that was sent. -/
def request? : Happening → Option Request
  | sent request _ => some request
  | looked _ | opened _ _ => none

/-- A file was read, or it could not be. -/
def isOpened : Happening → Bool
  | opened _ _ => true
  | looked _ | sent _ _ => false

/-- The token of a request was refused. -/
def isRefused : Happening → Bool
  | sent request (some reply) => request.token.isSome && reply.refusesToken
  | sent _ none | looked _ | opened _ _ => false

/-- The token that a request without one got, and the time right after. -/
def grant? : Happening × Happening → Option Grant
  | (sent request (some reply), looked since) =>
    if request.token.isNone then
      reply.gives?.map fun (token, lease) => ⟨token, lease, since⟩
    else none
  | _ => none

/-- The first token that was got. -/
def granted? (happened : List Happening) : Option Grant :=
  (happened.zip happened.tail).findSome? grant?

theorem granted?_looked_cons (time : Nat) (happened : List Happening) :
    granted? (looked time :: happened) = granted? happened := by
  cases happened <;> rfl

end Happening

/-- The request logs a service account in. -/
def Request.IsLogin (settings : VaultSettings) (role mount : String) (r : Request) : Prop :=
  Url.ofText? (addressOf settings (loginPath mount)) = some r.url ∧ r.token = none ∧
    r.scope = settings.scope ∧ ∃ jwt, r.body = loginBody role (Text.trim jwt)

namespace Posted

variable {settings : VaultSettings} {path : String} {token : Option String} {body : Json}
  {happened : List Happening} {reply? : Option Reply}

/-- The request that was sent, if one was. -/
theorem requests (h : Posted settings path token body happened reply?) :
    (happened.filterMap Happening.request?).length ≤ 1 ∧
      ∀ r ∈ happened.filterMap Happening.request?,
        Url.ofText? (addressOf settings path) = some r.url ∧ r.token = token ∧
          r.scope = settings.scope ∧ r.body = body := by
  cases h with
  | unsent => exact ⟨Nat.zero_le 1, fun _ hr => nomatch hr⟩
  | sent hurl reply? =>
      refine ⟨Nat.le_refl 1, fun r hr => ?_⟩
      obtain rfl := List.mem_singleton.1 hr
      exact ⟨hurl, rfl, rfl, rfl⟩

theorem granted?_eq_none (h : Posted settings path token body happened reply?) :
    Happening.granted? happened = none := by
  cases h <;> rfl

theorem any_isOpened (h : Posted settings path token body happened reply?) :
    happened.any Happening.isOpened = false := by
  cases h <;> rfl

/-- Its reply may refuse the token that a request carries. -/
theorem any_isRefused (h : Posted settings path token body happened reply?) :
    happened.any Happening.isRefused = (token.isSome && reply?.any Reply.refusesToken) := by
  cases h with
  | unsent => exact (Bool.and_false _).symm
  | sent hurl reply? =>
      cases reply? with
      | none => exact (Bool.and_false _).symm
      | some reply => exact Bool.or_false _

end Posted

namespace LoggedIn

variable {settings : VaultSettings} {role mount tokenPath : String} {happened : List Happening}
  {grant? : Option Grant}

theorem requests (h : LoggedIn settings role mount tokenPath happened grant?) :
    (happened.filterMap Happening.request?).length ≤ 1 ∧
      ∀ r ∈ happened.filterMap Happening.request?, r.IsLogin settings role mount := by
  cases h with
  | unreadable reason => exact ⟨Nat.zero_le 1, fun _ hr => nomatch hr⟩
  | refused hposted hreply =>
      obtain ⟨hlength, hall⟩ := hposted.requests
      refine ⟨hlength, fun r hr => ?_⟩
      obtain ⟨hurl, htoken, hscope, hbody⟩ := hall r hr
      exact ⟨hurl, htoken, hscope, _, hbody⟩
  | granted grant hurl hgives =>
      refine ⟨Nat.le_refl 1, fun r hr => ?_⟩
      obtain rfl := List.mem_singleton.1 hr
      exact ⟨hurl, rfl, rfl, _, rfl⟩

theorem granted?_eq_none (h : LoggedIn settings role mount tokenPath happened none) :
    Happening.granted? happened = none := by
  cases h with
  | unreadable reason => rfl
  | refused hposted hreply => cases hposted <;> rfl

/-- A login that gave a token shows it, and its request, whatever happens next. -/
theorem granted?_append {grant : Grant}
    (h : LoggedIn settings role mount tokenPath happened (some grant))
    (later : List Happening) : Happening.granted? (happened ++ later) = some grant := by
  cases h with
  | granted grant hurl hgives =>
      simp [Happening.granted?, List.findSome?_cons, Happening.grant?, hgives]

theorem requests_ne_nil {grant : Grant}
    (h : LoggedIn settings role mount tokenPath happened (some grant)) :
    happened.filterMap Happening.request? ≠ [] := by
  cases h with
  | granted grant hurl hgives => exact List.cons_ne_nil _ _

theorem any_isOpened (h : LoggedIn settings role mount tokenPath happened grant?) :
    happened.any Happening.isOpened = true := by
  cases h <;> rfl

/-- A login carries no token that could be refused. -/
theorem any_isRefused (h : LoggedIn settings role mount tokenPath happened grant?) :
    happened.any Happening.isRefused = false := by
  cases h with
  | unreadable reason => rfl
  | refused hposted hreply => exact hposted.any_isRefused
  | granted grant hurl hgives => rfl

end LoggedIn

end Vault

namespace VaultStore

open Vault (Happening Posted LoggedIn Grant Reply Request)

variable [VaultHost η]

namespace Call

/-! ### What a write did -/

variable (c : Call η)

/-- The requests that were sent. -/
def requests : List Request := c.entries.filterMap Happening.request?

/-- The requests that carry no token. -/
def logins : List Request := c.requests.filter (·.token.isNone)

/-- The requests that carry a token. -/
def writes : List Request := c.requests.filter (·.token.isSome)

/-- A login is tried: the file with the token of the service account is read, or it cannot be. -/
def logsIn : Bool := c.entries.any Happening.isOpened

/-- The token that a login gave. -/
def grant? : Option Grant := Happening.granted? c.entries

/-- The vault did not accept the token of a write. -/
def isRejected : Bool := c.entries.any Happening.isRefused

/-- The request writes the secret to its path. -/
def IsWrite (r : Request) : Prop :=
  Url.ofText? (Vault.addressOf c.store.settings c.path) = some r.url ∧ r.token.isSome ∧
    r.scope = c.store.settings.scope ∧ r.body = c.store.secretBody c.secret

variable {c} {role mount tokenPath : String}

/-- All that is looked at before a login is tried is the age of the token that is held. -/
theorem looks_cases (c : Call η) : c.looks = [] ∨ c.looks = [.looked c.now] := by
  unfold looks
  cases c.store.cached with
  | none => exact .inl rfl
  | some token => exact .inr rfl

theorem requests_of_entries {happened : List Happening} (h : c.entries = c.looks ++ happened) :
    c.requests = happened.filterMap Happening.request? := by
  rw [requests, h, List.filterMap_append]
  rcases c.looks_cases with hl | hl <;> rw [hl] <;> rfl

theorem logsIn_of_entries {happened : List Happening} (h : c.entries = c.looks ++ happened) :
    c.logsIn = happened.any Happening.isOpened := by
  rw [logsIn, h, List.any_append]
  rcases c.looks_cases with hl | hl <;> rw [hl] <;> rfl

theorem grant?_of_entries {happened : List Happening} (h : c.entries = c.looks ++ happened) :
    c.grant? = Happening.granted? happened := by
  rw [grant?, h]
  rcases c.looks_cases with hl | hl <;> rw [hl]
  · rfl
  · exact Happening.granted?_looked_cons _ _

theorem isRejected_of_entries {happened : List Happening} (h : c.entries = c.looks ++ happened) :
    c.isRejected = happened.any Happening.isRefused := by
  rw [isRejected, h, List.any_append]
  rcases c.looks_cases with hl | hl <;> rw [hl] <;> rfl

/-- A write logs in before it sends its request, and does neither twice. -/
theorem Went.exchange (h : c.Went role mount tokenPath) :
    ∃ logins writes, c.requests = logins ++ writes ∧ logins.length ≤ 1 ∧ writes.length ≤ 1 ∧
      (∀ r ∈ logins, r.IsLogin c.store.settings role mount) ∧ ∀ r ∈ writes, c.IsWrite r := by
  cases h with
  | idle hidle hentries hcached =>
      refine ⟨[], [], ?_, Nat.zero_le 1, Nat.zero_le 1, fun _ hr => (nomatch hr),
        fun _ hr => nomatch hr⟩
      rw [requests, hentries]
      rfl
  | @reused token happened _ hidle hfresh hposted hentries hcached =>
      obtain ⟨hlength, hall⟩ := hposted.requests
      refine ⟨[], _, requests_of_entries hentries, Nat.zero_le 1, hlength, fun _ hr => (nomatch hr),
        fun r hr => ?_⟩
      obtain ⟨hurl, htoken, hscope, hbody⟩ := hall r hr
      exact ⟨hurl, htoken ▸ rfl, hscope, hbody⟩
  | failed hidle hfresh hlogin hentries hcached hanswer =>
      obtain ⟨hlength, hall⟩ := hlogin.requests
      refine ⟨_, [], ?_, hlength, Nat.zero_le 1, hall, fun _ hr => nomatch hr⟩
      rw [requests_of_entries hentries, List.append_nil]
  | renewed hidle hfresh hlogin hposted hentries hcached =>
      obtain ⟨hlogins, hall⟩ := hlogin.requests
      obtain ⟨hwrites, hall'⟩ := hposted.requests
      rw [List.append_assoc] at hentries
      refine ⟨_, _, ?_, hlogins, hwrites, hall, fun r hr => ?_⟩
      · rw [requests_of_entries hentries, List.filterMap_append]
      · obtain ⟨hurl, htoken, hscope, hbody⟩ := hall' r hr
        exact ⟨hurl, htoken ▸ rfl, hscope, hbody⟩

/-- The requests of a write are told apart by their tokens. -/
theorem Went.sends (h : c.Went role mount tokenPath) :
    c.requests = c.logins ++ c.writes ∧ c.logins.length ≤ 1 ∧ c.writes.length ≤ 1 ∧
      (∀ r ∈ c.logins, r.IsLogin c.store.settings role mount) ∧ ∀ r ∈ c.writes, c.IsWrite r := by
  obtain ⟨logins, writes, hrequests, hone, hone', hlogins, hwrites⟩ := h.exchange
  have hbare : ∀ r ∈ logins, r.token = none := fun r hr => (hlogins r hr).2.1
  have hsigned : ∀ r ∈ writes, r.token.isSome = true := fun r hr => (hwrites r hr).2.1
  have hl : c.logins = logins := by
    rw [Call.logins, hrequests, List.filter_append,
      List.filter_eq_self.2 fun r hr => by rw [hbare r hr]; rfl,
      List.filter_eq_nil_iff.2 fun r hr => by simp [Option.ne_none_iff_isSome.2 (hsigned r hr)],
      List.append_nil]
  have hw : c.writes = writes := by
    rw [Call.writes, hrequests, List.filter_append,
      List.filter_eq_nil_iff.2 fun r hr => by simp [hbare r hr], List.filter_eq_self.2 hsigned,
      List.nil_append]
  rw [hl, hw]
  exact ⟨hrequests, hone, hone', hlogins, hwrites⟩

/-- What its diary shows of a write. -/
inductive Shows (c : Call η) : Prop where
  /-- There was nothing to write to. -/
  | idle (hidle : c.IsIdle) (hentries : c.entries = []) (hcached : c.after.cached = c.store.cached)
  /-- The token that is held was used. -/
  | reused {token : VaultToken} (hidle : ¬ c.IsIdle) (hfresh : c.fresh? = some token)
      (hlogsIn : c.logsIn = false) (hgrant : c.grant? = none) (hlogins : c.logins = [])
      (hwrites : ∀ w ∈ c.writes, w.token = some token.value)
      (hcached : c.after.cached = if c.isRejected then none else some token)
  /-- The login gave no token. -/
  | failed (hidle : ¬ c.IsIdle) (hfresh : c.fresh? = none) (hlogsIn : c.logsIn = true)
      (hgrant : c.grant? = none) (hwrites : c.writes = []) (hrejected : c.isRejected = false)
      (hcached : c.after.cached = c.store.cached) (hanswer : ∃ reason, c.answer = .error reason)
  /-- The login gave a token, which was used. -/
  | renewed {grant : Grant} (hidle : ¬ c.IsIdle) (hfresh : c.fresh? = none)
      (hlogsIn : c.logsIn = true) (hgrant : c.grant? = some grant) (hlogins : c.logins ≠ [])
      (hwrites : ∀ w ∈ c.writes, w.token = some grant.token)
      (hcached : c.after.cached = if c.isRejected then none else some grant.held)

/-- **What a write shows of the way that it went.** -/
theorem Went.shows (h : c.Went role mount tokenPath) : c.Shows := by
  have hmem : ∀ w ∈ c.writes, w ∈ c.requests ∧ w.token.isSome = true :=
    fun w hw => List.mem_filter.1 hw
  cases h with
  | idle hidle hentries hcached => exact .idle hidle hentries hcached
  | reused hidle hfresh hposted hentries hcached =>
      refine .reused hidle hfresh ?_ ?_ ?_ (fun w hw => ?_) ?_
      · rw [logsIn_of_entries hentries, hposted.any_isOpened]
      · rw [grant?_of_entries hentries, hposted.granted?_eq_none]
      · refine List.filter_eq_nil_iff.2 fun r hr => ?_
        rw [requests_of_entries hentries] at hr
        simp [(hposted.requests.2 r hr).2.1]
      · have hsent := (hmem w hw).1
        rw [requests_of_entries hentries] at hsent
        exact (hposted.requests.2 w hsent).2.1
      · rw [isRejected_of_entries hentries, hposted.any_isRefused]
        exact hcached
  | failed hidle hfresh hlogin hentries hcached hanswer =>
      refine .failed hidle hfresh ?_ ?_ ?_ ?_ hcached hanswer
      · rw [logsIn_of_entries hentries, hlogin.any_isOpened]
      · rw [grant?_of_entries hentries, hlogin.granted?_eq_none]
      · refine List.eq_nil_iff_forall_not_mem.2 fun w hw => ?_
        obtain ⟨hsent, htoken⟩ := hmem w hw
        rw [requests_of_entries hentries] at hsent
        rw [(hlogin.requests.2 w hsent).2.1] at htoken
        cases htoken
      · rw [isRejected_of_entries hentries, hlogin.any_isRefused]
  | @renewed grant before happened _ hidle hfresh hlogin hposted hentries hcached =>
      rw [List.append_assoc] at hentries
      have hrequests := requests_of_entries hentries
      rw [List.filterMap_append] at hrequests
      have hgrant : c.grant? = some grant := by
        rw [grant?_of_entries hentries, hlogin.granted?_append]
      refine .renewed hidle hfresh ?_ hgrant ?_ (fun w hw => ?_) ?_
      · rw [logsIn_of_entries hentries, List.any_append, hlogin.any_isOpened, Bool.true_or]
      · obtain ⟨r, hr⟩ := List.exists_mem_of_ne_nil _ hlogin.requests_ne_nil
        have hsent : r ∈ c.requests := hrequests ▸ List.mem_append_left _ hr
        have htoken : r.token = none := (hlogin.requests.2 r hr).2.1
        exact List.ne_nil_of_mem (List.mem_filter.2 ⟨hsent, htoken ▸ rfl⟩)
      · obtain ⟨hsent, htoken⟩ := hmem w hw
        rw [hrequests] at hsent
        rcases List.mem_append.1 hsent with hlog | hwrite
        · rw [(hlogin.requests.2 w hlog).2.1] at htoken
          cases htoken
        · exact (hposted.requests.2 w hwrite).2.1
      · rw [isRejected_of_entries hentries, List.any_append, hlogin.any_isRefused,
          hposted.any_isRefused]
        exact hcached

end Call

end VaultStore

end CredentialRotation
