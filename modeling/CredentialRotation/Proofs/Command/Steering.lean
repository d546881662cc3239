import CredentialRotation.Proofs.Command.Change
import CredentialRotation.Proofs.Patch

/-!
# Proofs — Command — Steering

Suspending, resuming and rotating a resource any number of times, in any order, where each request
may fail.  The cluster keeps the document of the resource, and applies merge patches to it.

An `Entry` is an order with the cluster that it met.  Whether its change is sent, carried out and
reported as done follows from whether its requests are answered and from whether the resource is
suspended (`Entry.Follows`).

* `Entry.requests_eq`, `Entry.goes`: the requests that every order makes, and the four ways in which
  they go.
* `Entry.exists_leaves`: one order, and what it leaves of document and resource.
* `keeps_all_but_steered`: so over any run the document keeps everything but what the orders name.
-/

namespace CredentialRotation

/-! ### Requests -/

namespace Cluster

/-- The change that the request asks for, if it asks for one. -/
def Request.change? (request : Request) : Option Json :=
  match request.action with
  | .read => none
  | .patch change => some change

/-- A request about the resource of this name can be sent. -/
def isSendable (scope name : String) : Bool :=
  name ≠ "" && (Target.path? (collection (some scope) ++ "/" ++ name ++ "" ++ "?")).isSome

end Cluster

namespace DocumentApi

/-- The changes that were asked for so far, the latest last. -/
def changes (a : DocumentApi) : List Json := a.requests.filterMap Cluster.Request.change?

/-- The next request is carried out. -/
def carriesOut (a : DocumentApi) : Bool := a.statuses.headD 200 = 200

theorem document_send (a : DocumentApi) (request : Cluster.Request) :
    (a.send request).2.document =
      if a.carriesOut then carryOut a.document request.action else a.document := by
  unfold carriesOut
  simp only [send, decide_eq_true_eq]

theorem changes_send (a : DocumentApi) (request : Cluster.Request) :
    (a.send request).2.changes = a.changes ++ request.change?.toList := by
  unfold changes
  rw [send, List.filterMap_append]
  cases h : request.change? <;> simp [h]

end DocumentApi

namespace Cluster

open DocumentApi (carryOut)

variable {scope name : String} {a : DocumentApi} {action : Action} {r : Resource}

/-- What cannot be sent fails. -/
theorem requestNamed_of_not_isSendable (h : isSendable scope name = false) (action : Action)
    (a : DocumentApi) :
    ∃ cause, requestNamed Resource.ofJson? scope name "" action a = (.error cause, a) := by
  unfold requestNamed request
  split
  · exact ⟨_, rfl⟩
  · next hname =>
    have hpath : Target.path? (collection (some scope) ++ "/" ++ name ++ "" ++ "?") = none := by
      simpa [isSendable, hname] using h
    rw [hpath]
    exact ⟨_, rfl⟩

/-- The reply to a request that failed is no resource. -/
theorem ofJson?_failed (status : Nat) :
    (Reply.failed status).body.bind Resource.ofJson? = none := rfl

/-- **What can be sent fails if it is refused**, and is answered by the resource if it is carried
out. -/
theorem exists_requestNamed (hs : isSendable scope name = true) (action : Action)
    (a : DocumentApi) :
    ∃ path result,
      requestNamed Resource.ofJson? scope name "" action a = (result, (a.send ⟨path, action⟩).2) ∧
      (a.carriesOut = false → ∃ cause, result = .error cause) ∧
      (a.carriesOut = true → ∀ r, Resource.ofJson? (carryOut a.document action) = some r →
        result = .ok r) := by
  obtain ⟨hname, hsome⟩ := (Bool.and_eq_true_iff ..).1 hs
  obtain ⟨path, hpath⟩ := Option.isSome_iff_exists.1 hsome
  have hrequest : requestNamed Resource.ofJson? scope name "" action a =
      request Resource.ofJson? (collection (some scope) ++ "/" ++ name ++ "" ++ "?") action a :=
    if_neg (by simpa using hname)
  have hsend : ClusterApi.send a ⟨path, action⟩ =
      ((a.send ⟨path, action⟩).1, (a.send ⟨path, action⟩).2) := rfl
  rw [hrequest, request, hpath]
  dsimp only
  rw [hsend]
  refine ⟨path, ?_⟩
  cases hc : a.carriesOut with
  | false =>
      have hreply : (a.send ⟨path, action⟩).1 = .failed (a.statuses.headD 200) :=
        if_neg (of_decide_eq_false hc)
      rw [hreply]
      dsimp only
      split
      · exact ⟨_, rfl, fun _ => ⟨_, rfl⟩, fun h => absurd h Bool.false_ne_true⟩
      · rw [ofJson?_failed]
        exact ⟨_, rfl, fun _ => ⟨_, rfl⟩, fun h => absurd h Bool.false_ne_true⟩
  | true =>
      have hstatus : a.statuses.headD 200 = 200 := of_decide_eq_true hc
      have hreply : (a.send ⟨path, action⟩).1 = ⟨200, some (carryOut a.document action)⟩ := by
        simp only [DocumentApi.send, hstatus, if_true]
      rw [hreply]
      dsimp only [Option.bind_some]
      rw [if_neg (by decide)]
      cases hread : Resource.ofJson? (carryOut a.document action) with
      | none =>
          exact ⟨_, rfl, fun h => absurd h.symm Bool.false_ne_true,
            fun _ _ h => absurd h.symm (Option.some_ne_none _)⟩
      | some r =>
          exact ⟨_, rfl, fun h => absurd h.symm Bool.false_ne_true,
            fun _ _ h => congrArg Except.ok (Option.some.inj h)⟩

/-- Reading a resource leaves the document and asks for no change. -/
theorem get_cases (hdoc : Resource.ofJson? a.document = some r) (scope name : String) :
    ((isSendable scope name && a.carriesOut) = false ∧
      ∃ cause a', get scope name a = (.error cause, a') ∧
        a'.document = a.document ∧ a'.changes = a.changes) ∨
      ((isSendable scope name && a.carriesOut) = true ∧ ∃ a', get scope name a = (.ok r, a') ∧
        a'.document = a.document ∧ a'.changes = a.changes ∧ a'.statuses = a.statuses.tail) := by
  cases hs : isSendable scope name with
  | false =>
      obtain ⟨cause, hget⟩ := requestNamed_of_not_isSendable hs .read a
      exact .inl ⟨rfl, cause, a, hget, rfl, rfl⟩
  | true =>
      obtain ⟨path, result, hget, hrefused, hanswered⟩ := exists_requestNamed hs .read a
      have hdocument : (a.send ⟨path, .read⟩).2.document = a.document := by
        rw [DocumentApi.document_send]
        exact ite_self _
      have hchanges : (a.send ⟨path, .read⟩).2.changes = a.changes :=
        (a.changes_send _).trans (List.append_nil _)
      cases hc : a.carriesOut with
      | false =>
          obtain ⟨cause, rfl⟩ := hrefused hc
          exact .inl ⟨rfl, cause, _, hget, hdocument, hchanges⟩
      | true =>
          obtain rfl := hanswered hc r hdoc
          exact .inr ⟨rfl, _, hget, hdocument, hchanges, rfl⟩

/-- Changing a resource that can be read afterwards. -/
theorem patch_cases (hs : isSendable scope name = true) {change : Json}
    (hread : Resource.ofJson? (a.document.merge change) = some r) :
    (a.carriesOut = false ∧ ∃ cause a', patch scope name change a = (.error cause, a') ∧
        a'.document = a.document ∧ a'.changes = a.changes ++ [change]) ∨
      (a.carriesOut = true ∧ ∃ a', patch scope name change a = (.ok r, a') ∧
        a'.document = a.document.merge change ∧ a'.changes = a.changes ++ [change]) := by
  obtain ⟨path, result, hpatch, hrefused, hanswered⟩ := exists_requestNamed hs (.patch change) a
  have hdocument := a.document_send ⟨path, .patch change⟩
  have hchanges := a.changes_send ⟨path, .patch change⟩
  cases hc : a.carriesOut with
  | false =>
      obtain ⟨cause, rfl⟩ := hrefused hc
      rw [hc] at hdocument
      exact .inl ⟨rfl, cause, _, hpatch, hdocument, hchanges⟩
  | true =>
      obtain rfl := hanswered hc r hread
      rw [hc] at hdocument
      exact .inr ⟨rfl, _, hpatch, hdocument, hchanges⟩

end Cluster

namespace Command

open Json (IsKeyed SameButSteered)

/-! ### One order -/

/-- The command came to its end. -/
def Output.isDone (output : Output) : Bool := output.ending.toOption.isSome

/-- The order calls for a change of a resource that is suspended, or is not. -/
def Order.calls (suspended : Bool) : Order → Bool
  | suspend value => suspended != value
  | rotate _ => !suspended

/-- An order that does not call for a change asks for what is so already, if for anything. -/
theorem Order.asked?_of_not_calls {order : Order} {suspended : Bool}
    (h : order.calls suspended = false)
    (hasked : order.asked?.isSome = true) : order.asked? = some suspended := by
  cases order with
  | suspend value => exact congrArg some (bne_eq_false_iff_eq.1 h).symm
  | rotate now => cases hasked

theorem Order.request?_of_asked? {order : Order} {value : Bool} (h : order.asked? = some value) :
    order.request? = none := by
  cases order with
  | suspend value => rfl
  | rotate now => cases h

/-- An order about a resource, and the cluster that it met. -/
structure Entry where
  scope : String
  name : String
  api : DocumentApi
  order : Order

namespace Entry

/-- What the command gave, and the cluster after it. -/
def done (e : Entry) : Output × DocumentApi :=
  match e.order with
  | .suspend value => Command.suspend e.scope e.name value e.api
  | .rotate now => Command.rotate e.scope e.name now e.api

/-- The cluster after the order. -/
def after (e : Entry) : DocumentApi := e.done.2

/-- The command came to its end. -/
def isDone (e : Entry) : Bool := e.done.1.isDone

/-- The resource is read: its first request can be sent, and is carried out. -/
def reads (e : Entry) : Bool := Cluster.isSendable e.scope e.name && e.api.carriesOut

/-- The request after the first would be carried out. -/
def carriesOut (e : Entry) : Bool := e.api.statuses.tail.headD 200 = 200

/-- How an order goes, where it met this resource: whether it comes to its end, and the cluster
after it. -/
inductive Goes (e : Entry) (r : Resource) : Bool → DocumentApi → Prop
  /-- The resource is not read. -/
  | unread {a : DocumentApi} (hreads : e.reads = false) (hdocument : a.document = e.api.document)
      (hchanges : a.changes = e.api.changes) : Goes e r false a
  /-- It is suspended, or is not, already; a resource that is suspended is not rotated. -/
  | idle {a : DocumentApi} (hreads : e.reads = true) (hcalls : e.order.calls r.spec.suspend = false)
      (hdocument : a.document = e.api.document) (hchanges : a.changes = e.api.changes) :
      Goes e r e.order.asked?.isSome a
  /-- The change is refused. -/
  | refused {a : DocumentApi} (hreads : e.reads = true)
      (hcalls : e.order.calls r.spec.suspend = true) (hout : e.carriesOut = false)
      (hdocument : a.document = e.api.document)
      (hchanges : a.changes = e.api.changes ++ [e.order.change]) : Goes e r false a
  /-- The change is carried out. -/
  | changed {a : DocumentApi} (hreads : e.reads = true)
      (hcalls : e.order.calls r.spec.suspend = true) (hout : e.carriesOut = true)
      (hdocument : a.document = e.api.document.merge e.order.change)
      (hchanges : a.changes = e.api.changes ++ [e.order.change]) : Goes e r true a

/-- The requests of an order, and whether it comes to its end by them.  The resource is read, and
then changed if the order calls for that. -/
def requests (e : Entry) : Bool × DocumentApi :=
  match Cluster.get e.scope e.name e.api with
  | (.error _, a) => (false, a)
  | (.ok met, a) =>
    if e.order.calls met.spec.suspend then
      match Cluster.patch e.scope e.name e.order.change a with
      | (result, a) => (result.toOption.isSome, a)
    else (e.order.asked?.isSome, a)

/-- **Every command is its requests**, as far as the cluster is concerned. -/
theorem requests_eq (e : Entry) : e.requests = (e.isDone, e.after) := by
  obtain ⟨scope, name, api, order⟩ := e
  unfold requests isDone after done
  cases order with
  | suspend value =>
      unfold Command.suspend setSuspend
      dsimp only [Order.change]
      rcases Cluster.get scope name api with ⟨_ | met, a⟩
      · rfl
      · dsimp only
        by_cases hsame : met.spec.suspend = value
        · have hcalls : (Order.suspend value).calls met.spec.suspend = false :=
            bne_eq_false_iff_eq.2 hsame
          rw [hcalls, if_neg Bool.false_ne_true, if_pos hsame]
          rfl
        · have hcalls : (Order.suspend value).calls met.spec.suspend = true := bne_iff_ne.2 hsame
          rw [hcalls, if_pos rfl, if_neg hsame]
          rcases Cluster.patch scope name (suspendChange value) a with ⟨_ | _, _⟩ <;> rfl
  | rotate now =>
      unfold Command.rotate
      dsimp only [Order.change]
      rcases Cluster.get scope name api with ⟨_ | met, a⟩
      · rfl
      · dsimp only
        cases met.spec.suspend with
        | true => rfl
        | false =>
            rcases Cluster.patch scope name (requestChange (requestText now)) a with
              ⟨_ | _, _⟩ <;> rfl

variable {r : Resource}

/-- A change that is called for, once the resource was read, is refused or carried out. -/
theorem goes_patch {e : Entry} {a : DocumentApi} {r' : Resource} (hreads : e.reads = true)
    (hcalls : e.order.calls r.spec.suspend = true) (hdocument : a.document = e.api.document)
    (hchanges : a.changes = e.api.changes) (hstatuses : a.statuses = e.api.statuses.tail)
    (hread : Resource.ofJson? (e.api.document.merge e.order.change) = some r') :
    e.Goes r (Cluster.patch e.scope e.name e.order.change a).1.toOption.isSome
      (Cluster.patch e.scope e.name e.order.change a).2 := by
  have hs : Cluster.isSendable e.scope e.name = true := ((Bool.and_eq_true_iff ..).1 hreads).1
  have hout : e.carriesOut = a.carriesOut := by rw [carriesOut, DocumentApi.carriesOut, hstatuses]
  rw [← hdocument] at hread
  rcases Cluster.patch_cases hs hread with ⟨hc, cause, _, hp, hd, hch⟩ | ⟨hc, _, hp, hd, hch⟩
  · rw [hp]
    exact .refused hreads hcalls (hout.trans hc) (hd.trans hdocument) (by rw [hch, hchanges])
  · rw [hp]
    exact .changed hreads hcalls (hout.trans hc) (by rw [hd, hdocument]) (by rw [hch, hchanges])

/-- **An order goes in one of these ways.** -/
theorem goes (e : Entry) (hdoc : Resource.ofJson? e.api.document = some r)
    (hkeyed : e.api.document.IsKeyed) : e.Goes r e.isDone e.after := by
  obtain ⟨r', hread, -⟩ := e.order.exists_leaves hdoc hkeyed
  suffices h : e.Goes r e.requests.1 e.requests.2 by rwa [requests_eq] at h
  rw [requests]
  rcases Cluster.get_cases hdoc e.scope e.name with ⟨hreads, cause, a, hget, hdocument, hchanges⟩ |
    ⟨hreads, a, hget, hdocument, hchanges, hstatuses⟩
  · rw [hget]
    exact .unread hreads hdocument hchanges
  · rw [hget]
    dsimp only
    cases hcalls : e.order.calls r.spec.suspend with
    | false => exact .idle hreads hcalls hdocument hchanges
    | true => exact goes_patch hreads hcalls hdocument hchanges hstatuses hread

/-- What follows for an order that met this resource. -/
structure Follows (e : Entry) (r : Resource) : Prop where
  /-- One change is sent if the resource was read and the order calls for it, and none otherwise. -/
  changes_eq : e.after.changes =
    e.api.changes ++ if e.reads && e.order.calls r.spec.suspend then [e.order.change] else []
  /-- That is carried out, or nothing is. -/
  document_eq : e.after.document =
    if e.reads && e.order.calls r.spec.suspend && e.carriesOut then
      e.api.document.merge e.order.change
    else e.api.document
  /-- The command fails with each of its requests, and where a resource that is suspended is to be
  rotated. -/
  isDone_eq : e.isDone =
    (e.reads && if e.order.calls r.spec.suspend then e.carriesOut else e.order.asked?.isSome)
  /-- Where it fails nothing has changed. -/
  document_of_not_isDone : e.isDone = false → e.after.document = e.api.document

theorem follows (e : Entry) (hdoc : Resource.ofJson? e.api.document = some r)
    (hkeyed : e.api.document.IsKeyed) : e.Follows r := by
  have hgoes := e.goes hdoc hkeyed
  generalize hdone : e.isDone = done at hgoes
  generalize hafter : e.after = a at hgoes
  cases hgoes with
  | unread hreads hdocument hchanges =>
      refine ⟨?_, ?_, ?_, fun _ => hafter ▸ hdocument⟩
      · rw [hafter, hchanges, hreads]
        exact (List.append_nil _).symm
      · rw [hafter, hdocument, hreads]
        rfl
      · rw [hdone, hreads]
        rfl
  | idle hreads hcalls hdocument hchanges =>
      refine ⟨?_, ?_, ?_, fun _ => hafter ▸ hdocument⟩
      · rw [hafter, hchanges, hreads, hcalls]
        exact (List.append_nil _).symm
      · rw [hafter, hdocument, hreads, hcalls]
        rfl
      · rw [hdone, hreads, hcalls]
        rfl
  | refused hreads hcalls hout hdocument hchanges =>
      refine ⟨?_, ?_, ?_, fun _ => hafter ▸ hdocument⟩
      · rw [hafter, hchanges, hreads, hcalls]
        rfl
      · rw [hafter, hdocument, hreads, hcalls, hout]
        rfl
      · rw [hdone, hreads, hcalls, hout]
        rfl
  | changed hreads hcalls hout hdocument hchanges =>
      refine ⟨?_, ?_, ?_, fun h => nomatch hdone.symm.trans h⟩
      · rw [hafter, hchanges, hreads, hcalls]
        rfl
      · rw [hafter, hdocument, hreads, hcalls, hout]
        rfl
      · rw [hdone, hreads, hcalls, hout]
        rfl

/-- Whether the resource is to be suspended from now on, if the order came to its end and says
so. -/
def asked? (e : Entry) : Option Bool := if e.isDone then e.order.asked? else none

/-- The request for a rotation that was left, if the order came to its end and leaves one. -/
def request? (e : Entry) : Option String := if e.isDone then e.order.request? else none

/-- What an order leaves of a resource. -/
structure Leaves (e : Entry) (r r' : Resource) : Prop where
  read : Resource.ofJson? e.after.document = some r'
  keyed : e.after.document.IsKeyed
  document : SameButSteered e.api.document e.after.document
  status : r'.status = r.status
  spec : r'.spec = { r.spec with suspend := e.asked?.getD r.spec.suspend }
  request : r'.rotateRequest = e.request?.or r.rotateRequest

/-- **One order leaves everything but what it names**, and that as it was asked for. -/
theorem exists_leaves (e : Entry) (hdoc : Resource.ofJson? e.api.document = some r)
    (hkeyed : e.api.document.IsKeyed) : ∃ r', e.Leaves r r' := by
  have hgoes := e.goes hdoc hkeyed
  -- where the document stays as it was, so does the resource, and an order that came to its end all
  -- the same asked for what was so already
  have hstays : e.after.document = e.api.document →
      (e.isDone = true → e.order.asked? = some r.spec.suspend) → e.Leaves r r := by
    intro hsame hasked
    refine ⟨?_, ?_, ?_, rfl, ?_, ?_⟩
    · rwa [hsame]
    · rwa [hsame]
    · rw [hsame]
      exact .refl _
    · rw [asked?]
      split
      · next h => rw [hasked h, Option.getD_some]
      · rfl
    · rw [request?]
      split
      · next h => rw [Order.request?_of_asked? (hasked h), Option.none_or]
      · rfl
  generalize hdone : e.isDone = done at hgoes
  generalize hafter : e.after = a at hgoes
  cases hgoes with
  | unread _ hdocument _ =>
      exact ⟨r, hstays (hafter ▸ hdocument) fun h => nomatch hdone.symm.trans h⟩
  | idle _ hcalls hdocument _ =>
      exact ⟨r, hstays (hafter ▸ hdocument) fun h =>
        Order.asked?_of_not_calls hcalls (hdone.symm.trans h)⟩
  | refused _ _ _ hdocument _ =>
      exact ⟨r, hstays (hafter ▸ hdocument) fun h => nomatch hdone.symm.trans h⟩
  | changed _ _ _ hdocument _ =>
      obtain ⟨r', hread, hleaves⟩ := e.order.exists_leaves hdoc hkeyed
      have hmerged : e.after.document = e.api.document.merge e.order.change := hafter ▸ hdocument
      refine ⟨r', ?_, ?_, ?_, hleaves.status, ?_, ?_⟩
      · rwa [hmerged]
      · rw [hmerged]
        exact e.order.isKeyed_merge hkeyed
      · rw [hmerged]
        exact e.order.sameButSteered_merge _
      · rw [asked?, hdone]
        exact hleaves.spec
      · rw [request?, hdone]
        exact hleaves.request

end Entry

/-! ### Runs -/

/-- The cluster after these orders about the resource of a name. -/
def through (scope name : String) (api : DocumentApi) : List Order → DocumentApi
  | [] => api
  | order :: orders => through scope name (Entry.mk scope name api order).after orders

/-- The orders, each with the cluster that it met. -/
def entries (scope name : String) (api : DocumentApi) : List Order → List Entry
  | [] => []
  | order :: orders =>
    ⟨scope, name, api, order⟩ :: entries scope name (Entry.mk scope name api order).after orders

/-- The last result is the last one of the tail, or else that of the head. -/
theorem getLast?_filterMap_cons {α β : Type} (f : α → Option β) (a : α) (as : List α) :
    ((a :: as).filterMap f).getLast? = (as.filterMap f).getLast?.or (f a) := by
  rw [List.filterMap_cons]
  cases f a with
  | none => exact (Option.or_none).symm
  | some b =>
      rw [List.getLast?_cons]
      cases (as.filterMap f).getLast? <;> rfl

/-- **Orders touch only what they name.**  A resource can be read, and its document is an object
with an object for its spec.  It is suspended, resumed and rotated in any order, by requests that
may fail.  Then the document differs at most in whether the resource is suspended and in the
annotation by which a rotation is asked for, and both are as the last orders that came to their end
have left them.  On the way every order sends a change only if it calls for one, and changes nothing
if it fails. -/
theorem keeps_all_but_steered {api : DocumentApi} {r : Resource}
    (hdoc : Resource.ofJson? api.document = some r) (hkeyed : api.document.IsKeyed)
    (scope name : String) (orders : List Order) :
    SameButSteered api.document (through scope name api orders).document ∧
      (∃ r', Resource.ofJson? (through scope name api orders).document = some r' ∧
        r'.status = r.status ∧
        r'.spec = { r.spec with
          suspend := ((entries scope name api orders).filterMap Entry.asked?).getLast?.getD
            r.spec.suspend } ∧
        r'.rotateRequest =
          ((entries scope name api orders).filterMap Entry.request?).getLast?.or r.rotateRequest) ∧
      ∀ e ∈ entries scope name api orders, ∃ met, Resource.ofJson? e.api.document = some met ∧
        e.Follows met := by
  induction orders generalizing api r with
  | nil => exact ⟨.refl _, ⟨r, hdoc, rfl, rfl, rfl⟩, fun _ he => nomatch he⟩
  | cons order orders ih =>
      obtain ⟨r₁, hleaves⟩ := (Entry.mk scope name api order).exists_leaves hdoc hkeyed
      obtain ⟨hsame, ⟨r', hread, hstatus, hspec, hrequest⟩, hall⟩ := ih hleaves.read hleaves.keyed
      refine ⟨hleaves.document.trans hsame, ⟨r', hread, hstatus.trans hleaves.status, ?_, ?_⟩, ?_⟩
      · rw [hspec, hleaves.spec, entries, getLast?_filterMap_cons, Option.getD_or]
      · rw [hrequest, hleaves.request, entries, getLast?_filterMap_cons, Option.or_assoc]
      · intro e he
        rcases List.mem_cons.1 he with rfl | he
        · exact ⟨r, hdoc, Entry.follows _ hdoc hkeyed⟩
        · exact hall e he

end Command

/-! ### A specimen -/

namespace Specimen

/-- The secret as a document with fields of other programs, with `null` for its annotations and
without whether it is suspended. -/
def sharedDocument : Json :=
  .obj [("kind", .str "SecretRotation"),
    ("metadata", .obj [("labels", .obj [("team", .str "payments")]), ("annotations", .null)]),
    ("spec", .obj [("vaultPath", .str "secret/data/orders"), ("owner", .null),
      ("rotationInterval", .str "1h")])]

/-- It is suspended, and cannot be rotated until it is resumed, which fails at first. -/
def orders : List Command.Order :=
  [.suspend true, .rotate (clock 0), .suspend false, .suspend false, .rotate (clock 0)]

/-- The secret as a document with the list of its fields for its spec. -/
def listedDocument : Json :=
  .obj [("metadata", metadataDocument),
    ("spec", .arr [.str "1h", .int 16, .bool false, .str "secret/data/orders", .bool false])]

end Specimen

namespace Command

/-- In the end the secret is not suspended, and a rotation was asked for. -/
theorem sharedDocument_kept :
    let api : DocumentApi := ⟨Specimen.sharedDocument, [200, 200, 200, 200, 500], []⟩
    let api' := through "payments" "orders-db" api Specimen.orders
    (entries "payments" "orders-db" api Specimen.orders).map Entry.isDone =
        [true, false, false, true, true] ∧
      api.document.SameButSteered api'.document ∧
      ∃ r', Resource.ofJson? api'.document = some r' ∧ r'.spec.suspend = false ∧
        r'.rotateRequest = some "2024-06-01T08:00:00+00:00" := by
  intro api api'
  have hkeyed : api.document.IsKeyed := ⟨⟨_, rfl⟩, _, rfl⟩
  obtain ⟨r, hdoc⟩ : ∃ r, Resource.ofJson? api.document = some r :=
    Option.isSome_iff_exists.1 (by decide +kernel)
  obtain ⟨hsame, ⟨r', hread, -, hspec, hrequest⟩, -⟩ :=
    keeps_all_but_steered hdoc hkeyed "payments" "orders-db" Specimen.orders
  obtain ⟨hdone, hasked, hrequested⟩ :
      (entries "payments" "orders-db" api Specimen.orders).map Entry.isDone =
        [true, false, false, true, true] ∧
      ((entries "payments" "orders-db" api Specimen.orders).filterMap Entry.asked?).getLast? =
        some false ∧
      ((entries "payments" "orders-db" api Specimen.orders).filterMap Entry.request?).getLast? =
        some "2024-06-01T08:00:00+00:00" := by decide +kernel
  refine ⟨hdone, hsame, r', hread, ?_, ?_⟩
  · rw [hspec, hasked]
    rfl
  · rw [hrequest, hrequested, Option.some_or]

/-- A spec that is a list can be read, but its fields are lost when the secret is suspended, though
no request is refused. -/
theorem listedDocument_not_kept :
    let e : Entry := ⟨"payments", "orders-db", ⟨Specimen.listedDocument, [], []⟩, .suspend true⟩
    Resource.ofJson? e.api.document = some Specimen.unrotated ∧ e.isDone = false ∧
      e.carriesOut = true ∧ Resource.ofJson? e.after.document = none := by
  decide +kernel

end Command

end CredentialRotation
