import CredentialRotation.Vault.Store

/-!
# Proofs — Vault — Diary

A *diary* is any surroundings of a client of the vault at all, with the list of what the client
asked of them: when it looked at the clock, which file it read, which request it sent, and what it
got.

**Main statement** (`write_bare`).  A diary changes nothing: a write that is kept account of ends as
it would without, and leaves the store that it would leave.
-/

namespace CredentialRotation

variable {η : Type}

namespace Vault

/-- Something that a client asked of its surroundings. -/
inductive Happening where
  /-- The clock was looked at, and showed this. -/
  | looked (time : Nat)
  /-- A file was read, or it could not be. -/
  | opened (path : String) (text : Except String String)
  /-- A request was sent, and there was this reply or none. -/
  | sent (request : Request) (reply : Option Reply)

/-- Surroundings, and what happened there. -/
structure Diary (η : Type) where
  host : η
  /-- The latest last. -/
  entries : List Happening

variable [VaultHost η]

namespace Diary

instance : VaultHost (Diary η) where
  clock d :=
    ((VaultHost.clock d.host).1,
      ⟨(VaultHost.clock d.host).2, d.entries ++ [.looked (VaultHost.clock d.host).1]⟩)
  file d path :=
    ((VaultHost.file d.host path).1,
      ⟨(VaultHost.file d.host path).2, d.entries ++ [.opened path (VaultHost.file d.host path).1]⟩)
  send d request :=
    ((VaultHost.send d.host request).1,
      ⟨(VaultHost.send d.host request).2,
        d.entries ++ [.sent request (VaultHost.send d.host request).1]⟩)

theorem entries_clock (d : Diary η) :
    (VaultHost.clock d).2.entries = d.entries ++ [.looked (VaultHost.clock d).1] := rfl

theorem entries_file (d : Diary η) (path : String) :
    (VaultHost.file d path).2.entries = d.entries ++ [.opened path (VaultHost.file d path).1] := rfl

theorem entries_send (d : Diary η) (request : Request) :
    (VaultHost.send d request).2.entries =
      d.entries ++ [.sent request (VaultHost.send d request).1] :=
  rfl

end Diary

/-! ### A diary changes nothing -/

/-- A result that came with a diary, without it. -/
def bare {α : Type} (x : α × Diary η) : α × η := (x.1, x.2.host)

theorem post_bare (settings : VaultSettings) (path : String) (token : Option String) (body : Json)
    (d : Diary η) :
    post settings path token body d.host = bare (post settings path token body d) := by
  unfold post
  split
  · rfl
  · next url _ =>
    split
    · rfl
    · split
      · rfl
      · have hsend : VaultHost.send d.host ⟨url, token, settings.scope, body⟩ =
            bare (VaultHost.send d ⟨url, token, settings.scope, body⟩) := rfl
        rw [hsend]
        rcases VaultHost.send d ⟨url, token, settings.scope, body⟩ with ⟨reply, d'⟩
        cases reply <;> rfl

theorem login_bare (settings : VaultSettings) (role mount tokenPath : String) (d : Diary η) :
    login settings role mount tokenPath d.host = bare (login settings role mount tokenPath d) := by
  unfold login
  have hfile : VaultHost.file d.host tokenPath = bare (VaultHost.file d tokenPath) := rfl
  rw [hfile]
  rcases VaultHost.file d tokenPath with ⟨text, d₁⟩
  cases text with
  | error reason => rfl
  | ok jwt =>
      dsimp only [bare]
      rw [post_bare]
      rcases post settings (loginPath mount) none (loginBody role (Text.trim jwt)) d₁ with
        ⟨result, d₂⟩
      cases result with
      | error e => rfl
      | ok reply =>
          dsimp only [bare]
          split
          · split <;> rfl
          · rfl

end Vault

namespace VaultStore

open Vault (Diary)

/-- The store with a new diary. -/
def diarized (s : VaultStore η) : VaultStore (Diary η) := ⟨s.settings, s.cached, ⟨s.host, []⟩⟩

/-- The store without its diary. -/
def plain (s : VaultStore (Diary η)) : VaultStore η := ⟨s.settings, s.cached, s.host.host⟩

theorem plain_settings (s : VaultStore (Diary η)) : s.plain.settings = s.settings := rfl

theorem plain_host (s : VaultStore (Diary η)) : s.plain.host = s.host.host := rfl

theorem secretBody_plain (s : VaultStore (Diary η)) (secret : Secret) :
    s.plain.secretBody secret = s.secretBody secret := rfl

/-- A result that came with a store and its diary, without the diary. -/
def bare {α : Type} (x : α × VaultStore (Diary η)) : α × VaultStore η := (x.1, x.2.plain)

variable [VaultHost η]

theorem freshToken_bare (s : VaultStore (Diary η)) : s.plain.freshToken = bare s.freshToken := by
  obtain ⟨settings, cached, d⟩ := s
  cases cached <;> rfl

theorem token_bare (s : VaultStore (Diary η)) : s.plain.token = bare s.token := by
  unfold token
  rw [plain_settings]
  cases s.settings.auth with
  | anonymous => rfl
  | token value => rfl
  | serviceAccount role mount tokenPath =>
      dsimp only
      rw [freshToken_bare]
      rcases s.freshToken with ⟨fresh, s₁⟩
      cases fresh with
      | some token => rfl
      | none =>
          dsimp only [bare]
          rw [plain_host, plain_settings, Vault.login_bare]
          rcases Vault.login s₁.settings role mount tokenPath s₁.host with ⟨result, d⟩
          cases result <;> rfl

omit [VaultHost η] in
theorem settle_bare (s : VaultStore (Diary η)) (path : String) (reply : Vault.Reply) :
    s.plain.settle path reply = bare (s.settle path reply) := by
  unfold settle
  split
  · rfl
  · split <;> rfl

/-- **A write ends as it would without a diary.** -/
theorem write_bare (s : VaultStore (Diary η)) (path : String) (secret : Secret) :
    s.plain.write path secret = bare (s.write path secret) := by
  unfold write
  split
  · rfl
  · rw [token_bare]
    rcases s.token with ⟨token, s₁⟩
    cases token with
    | error e => rfl
    | ok token =>
        dsimp only [bare]
        rw [plain_host, plain_settings, secretBody_plain, Vault.post_bare]
        rcases Vault.post s₁.settings path token (s₁.secretBody secret) s₁.host with ⟨result, d⟩
        cases result with
        | error e => rfl
        | ok reply => exact settle_bare { s₁ with host := d } path reply

end VaultStore

end CredentialRotation
