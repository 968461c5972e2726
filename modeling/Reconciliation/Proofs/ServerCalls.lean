import Reconciliation.Api.Server
import Reconciliation.Proofs.Addresses
import Reconciliation.Proofs.FourWays
import Reconciliation.Proofs.Requests

/-! # Calls to a server

A server is *steady* if all faults that are prepared are permanent and only about what is served, and *filed* if
every object is under the path of its kind and place. A call to such a server carries out its verdict on the
object at its place: it reads the object, sends what the verdict takes, and leaves at the place what the verdict
leaves there. Nothing else changes, and the server stays steady and filed.
-/

namespace Reconciliation

namespace Api

section Asking

variable {σ α : Type} {kind : Kind} {place : Place}

/-- A request about an object at a proper place, or about its collection, is sent to whoever answers. -/
theorem run_askAbout_of_proper (proper : place.IsProper) (handler : Handler Api σ) {request : Request}
    (subject : request.subject = kind.itemPath place ∨ request.subject = kind.collectionPath place.namespaceName)
    (judge : request.Answer → Except Failure α) (state : σ) :
    (askAbout request judge).run handler state =
      ⟨judge (handler request state).1, (handler request state).2, [⟨request, (handler request state).1⟩]⟩ := by
  simp only [askAbout, (Request.sent_of_proper proper subject).1, Program.run]

theorem perform_get (proper : place.IsProper) :
    perform (.get kind place.namespaceName place.name) = askAbout (.read kind place) (absentIfNotFound kind) := by
  simp only [perform, askItem, proper.name.nonempty, Bool.false_eq_true, if_false]

theorem perform_create {object : kind.Object} (within : object.metadata.namespaceName = some place.namespaceName) :
    perform (.write (.create ⟨kind, object⟩)) =
      askAbout (.create place.namespaceName ⟨kind, object⟩) (refuseRejection kind) := by
  simp only [perform, performWrite, inItsNamespace, within]

theorem perform_update (proper : place.IsProper) {object : kind.Object}
    (within : object.metadata.namespaceName = some place.namespaceName) (named : object.nameAny = place.name) :
    perform (.write (.update ⟨kind, object⟩)) = askAbout (.replace place ⟨kind, object⟩) (refuseRejection kind) := by
  obtain ⟨namespaceName, name⟩ := place
  obtain rfl : object.nameAny = name := named
  have nonempty : object.nameAny.isEmpty = false := proper.name.nonempty
  simp only [perform, performWrite, inItsNamespace, within, askItem, nonempty, Bool.false_eq_true, if_false]

theorem perform_delete (proper : place.IsProper) {object : kind.Object}
    (within : object.metadata.namespaceName = some place.namespaceName) (named : object.nameAny = place.name)
    (policy : Option PropagationPolicy) :
    perform (.write (.delete ⟨kind, object⟩ policy)) =
      askAbout (.remove kind place policy) (goneIfNotFound kind) := by
  obtain ⟨namespaceName, name⟩ := place
  obtain rfl : object.nameAny = name := named
  have nonempty : object.nameAny.isEmpty = false := proper.name.nonempty
  simp only [perform, performWrite, inItsNamespace, within, askItem, nonempty, Bool.false_eq_true, if_false]

/-- A verdict to write is carried out by this one write. -/
theorem run_program_write (handler : Handler Api σ) (change : Write) (outcome : Outcome) (state : σ) :
    (serve (Verdict.write change outcome).program).run handler state =
      let written := (perform (.write change)).run handler state
      ⟨written.result.map fun _ => outcome, written.state, written.exchanges⟩ := by
  rw [Verdict.program, Reconcile.commit, serve, Program.expand, Program.run_bind]
  exact congrArg (Run.mk _ _) (List.append_nil _)

end Asking

end Api

namespace Api.Server

/-- Nothing stands in the way of requests about objects, and what is served is always answered in the same way. -/
structure IsSteady (server : Server) : Prop where
  permanent : ∀ fault ∈ server.faults, fault.times = none
  apart : ∀ fault ∈ server.faults, ∀ (kind : Kind) (place : Place),
    fault.path ≠ kind.collectionPath place.namespaceName ∧ fault.path ≠ kind.itemPath place

/-- Every object is under the path of its kind and place. -/
def IsFiled (server : Server) : Prop :=
  ∀ path resource, server.items.get? path = some resource → path = resource.kind.itemPath resource.object.metadata.place

/-- The object of a kind that is at a place. -/
def held (server : Server) (kind : Kind) (place : Place) : Option kind.Object :=
  (server.items.get? (kind.itemPath place)).bind (·.as? kind)

/-- Let an object, or none, be at a place. -/
def setHeld (server : Server) (kind : Kind) (place : Place) (object : Option kind.Object) : Server :=
  let path := kind.itemPath place
  { server with items := object.elim (server.items.erase path) fun object => server.items.insert path ⟨kind, object⟩ }

section Held

variable {server : Server} {kind other : Kind} {place elsewhere : Place}

/-- Under the path of a proper place there are objects of its kind only, and they are at this place. -/
theorem IsFiled.resource_at (filed : server.IsFiled) (proper : place.IsProper) {resource : Resource}
    (found : server.items.get? (kind.itemPath place) = some resource) :
    ∃ object : kind.Object, resource = ⟨kind, object⟩ ∧ object.metadata.place = place := by
  obtain ⟨found_kind, object⟩ := resource
  obtain ⟨rfl, at_place⟩ := Kind.eq_of_itemPath_eq proper (filed _ _ found).symm
  exact ⟨object, rfl, at_place⟩

theorem held_eq_some_iff (filed : server.IsFiled) (proper : place.IsProper) {object : kind.Object} :
    server.held kind place = some object ↔ server.items.get? (kind.itemPath place) = some ⟨kind, object⟩ := by
  rw [held]
  cases found : server.items.get? (kind.itemPath place) with
  | none => simp
  | some resource =>
    obtain ⟨object, rfl, -⟩ := filed.resource_at proper found
    simp

theorem held_eq_none_iff (filed : server.IsFiled) (proper : place.IsProper) :
    server.held kind place = none ↔ server.items.get? (kind.itemPath place) = none := by
  rw [held]
  cases found : server.items.get? (kind.itemPath place) with
  | none => simp
  | some resource =>
    obtain ⟨object, rfl, -⟩ := filed.resource_at proper found
    simp

/-- An object that is held is at its place. -/
theorem IsFiled.place_of_held (filed : server.IsFiled) (proper : place.IsProper) {object : kind.Object}
    (found : server.held kind place = some object) : object.metadata.place = place := by
  obtain ⟨_, same, at_place⟩ := filed.resource_at proper ((held_eq_some_iff filed proper).mp found)
  cases same
  exact at_place

theorem get?_setHeld_self (object : Option kind.Object) :
    (server.setHeld kind place object).items.get? (kind.itemPath place) = object.map (⟨kind, ·⟩) := by
  cases object with
  | none => exact SortedMap.get?_erase_self _ _
  | some object => exact SortedMap.get?_insert_self _ _ _

theorem get?_setHeld_of_ne (object : Option kind.Object) {path : String} (different : kind.itemPath place ≠ path) :
    (server.setHeld kind place object).items.get? path = server.items.get? path := by
  cases object with
  | none => exact SortedMap.get?_erase_of_ne _ different
  | some object => exact SortedMap.get?_insert_of_ne _ different _

@[simp] theorem held_setHeld_self (object : Option kind.Object) :
    (server.setHeld kind place object).held kind place = object := by
  rw [held, get?_setHeld_self]
  cases object <;> simp

theorem held_setHeld_of_ne (proper : elsewhere.IsProper) (different : kind ≠ other) (object : Option kind.Object) :
    (server.setHeld kind place object).held other elsewhere = server.held other elsewhere := by
  have apart : kind.itemPath place ≠ other.itemPath elsewhere := fun same =>
    different (Kind.eq_of_itemPath_eq proper same).1
  rw [held, get?_setHeld_of_ne object apart, held]

/-- Letting be there what is there already changes nothing. -/
theorem setHeld_held (filed : server.IsFiled) (proper : place.IsProper) :
    server.setHeld kind place (server.held kind place) = server := by
  have items : (server.setHeld kind place (server.held kind place)).items = server.items := by
    refine SortedMap.ext_get? fun path => ?_
    by_cases here : kind.itemPath place = path
    · subst here
      rw [get?_setHeld_self]
      cases found : server.held kind place with
      | none => exact ((held_eq_none_iff filed proper).mp found).symm
      | some object => exact ((held_eq_some_iff filed proper).mp found).symm
    · exact get?_setHeld_of_ne _ here
  exact congrArg (fun items => { server with items }) items

theorem IsFiled.setHeld (filed : server.IsFiled) {object : Option kind.Object}
    (at_place : ∀ found, object = some found → found.metadata.place = place) :
    (server.setHeld kind place object).IsFiled := by
  intro path resource found
  by_cases here : kind.itemPath place = path
  · subst here
    rw [get?_setHeld_self] at found
    obtain ⟨object, rfl, rfl⟩ := Option.map_eq_some_iff.mp found
    exact congrArg kind.itemPath (at_place object rfl).symm
  · rw [get?_setHeld_of_ne object here] at found
    exact filed path resource found

theorem isFiled_empty (groups : List ServedGroup) (core : List ServedVersion) (faults : List Fault) :
    (⟨.empty, groups, core, faults⟩ : Server).IsFiled := fun _ _ found => nomatch found

/-- An object that is put under its path is filed. -/
theorem isFiled_place (filed : server.IsFiled) (resource : Resource) : (server.place resource).IsFiled :=
  @IsFiled.setHeld server resource.kind resource.object.metadata.place filed (some resource.object)
    fun _ same => Option.some.inj same ▸ rfl

theorem IsSteady.setHeld (steady : server.IsSteady) (object : Option kind.Object) :
    (server.setHeld kind place object).IsSteady := ⟨steady.permanent, steady.apart⟩

end Held

section Answers

variable {server : Server} {request : Request}

/-- Permanent faults stay as they are. -/
theorem faults_of_takeFault {faults : List Fault} (permanent : ∀ fault ∈ faults, fault.times = none)
    {rejection : Rejection} {after : List Fault} (taken : takeFault request faults = some (rejection, after)) :
    after = faults := by
  induction faults generalizing after with
  | nil => cases taken
  | cons fault rest ih =>
    obtain ⟨here, later⟩ := List.forall_mem_cons.mp permanent
    rw [takeFault] at taken
    split at taken
    · cases taken
      simp only [Fault.used, here, Option.map_none]
      exact congrArg (fun times => { fault with times } :: rest) here.symm
    · obtain ⟨⟨cause, others⟩, found, same⟩ := Option.map_eq_some_iff.mp taken
      cases same
      rw [ih later found]

theorem takeFault_eq_none {faults : List Fault} (apart : ∀ fault ∈ faults, fault.path ≠ request.path) :
    takeFault request faults = none := by
  induction faults with
  | nil => rfl
  | cons fault rest ih =>
    obtain ⟨here, later⟩ := List.forall_mem_cons.mp apart
    simp [takeFault, Fault.isFor, here, ih later]

/-- A request that meets no fault is answered by what the server has. -/
theorem handler_of_apart (apart : ∀ fault ∈ server.faults, fault.path ≠ request.path) :
    handler request server = ((server.respond request).1, { server with items := (server.respond request).2 }) := by
  simp only [handler, takeFault_eq_none apart]

theorem items_respond_of_discovery (discovery : request.IsDiscovery) : (server.respond request).2 = server.items := by
  cases request with
  | listGroups | listGroupResources _ _ | listCoreVersions | listCoreResources _ => rfl
  | _ => exact discovery.elim

/-- Questions about what is served change nothing. -/
theorem handler_of_discovery (permanent : ∀ fault ∈ server.faults, fault.times = none)
    (discovery : request.IsDiscovery) : (handler request server).2 = server := by
  rw [handler]
  split
  · next rejection after taken =>
    exact congrArg (fun faults => { server with faults }) (faults_of_takeFault permanent taken)
  · exact congrArg (fun items => { server with items }) (items_respond_of_discovery discovery)

/-- Questions about what is served are answered in the same way whatever objects there are. -/
theorem answer_of_discovery (discovery : request.IsDiscovery) (items : SortedMap String Resource) :
    (handler request { server with items }).1 = (handler request server).1 := by
  simp only [handler]
  cases takeFault request server.faults with
  | some taken => rfl
  | none =>
    cases request with
    | listGroups | listGroupResources _ _ | listCoreVersions | listCoreResources _ => rfl
    | _ => exact discovery.elim

end Answers

section Exchanges

variable {server : Server} {kind : Kind} {place : Place} {α : Type}

/-- A request about an object at a proper place, or about its collection, meets no fault. -/
theorem handler_of_proper (steady : server.IsSteady) (proper : place.IsProper) {request : Request}
    (subject : request.subject = kind.itemPath place ∨ request.subject = kind.collectionPath place.namespaceName) :
    handler request server =
      ((server.respond request).1, { server with items := (server.respond request).2 }) := by
  have path := (Request.sent_of_proper proper subject).2
  refine handler_of_apart fun fault prepared => ?_
  obtain ⟨collections, items⟩ := steady.apart fault prepared kind place
  rcases subject with item | collection
  · rw [path, item]
    exact items
  · rw [path, collection]
    exact collections

/-- Such a request is sent and answered. -/
theorem run_askAbout (steady : server.IsSteady) (proper : place.IsProper) {request : Request}
    (subject : request.subject = kind.itemPath place ∨ request.subject = kind.collectionPath place.namespaceName)
    (judge : request.Answer → Except Failure α) :
    (askAbout request judge).run handler server =
        ⟨judge (server.respond request).1, { server with items := (server.respond request).2 },
          [⟨request, (server.respond request).1⟩]⟩ ∧
      request.path = request.subject := by
  have sent := run_askAbout_of_proper proper handler subject judge server
  rw [handler_of_proper steady proper subject] at sent
  exact ⟨sent, (Request.sent_of_proper proper subject).2⟩

/-- What is read at a proper place is the object that is held there. -/
theorem run_get (steady : server.IsSteady) (filed : server.IsFiled) (proper : place.IsProper) :
    let run := (perform (.get kind place.namespaceName place.name)).run handler server
    run.result = .ok (server.held kind place) ∧ run.state = server ∧ run.requests = [.read kind place] := by
  intro run
  obtain ⟨asked, path⟩ := run_askAbout steady proper (.inl rfl : (Request.read kind place).subject = _ ∨ _ = _)
    (absentIfNotFound kind)
  have whole : run = (askAbout (.read kind place) (absentIfNotFound kind)).run handler server :=
    congrArg (Program.run handler · server) (perform_get proper)
  rw [whole, asked]
  simp only [Run.requests, respond, path, Request.subject, List.map_cons, List.map_nil]
  cases found : server.items.get? (kind.itemPath place) with
  | none =>
    rw [(held_eq_none_iff filed proper).mpr found]
    exact ⟨rfl, rfl, trivial⟩
  | some resource =>
    obtain ⟨object, rfl, -⟩ := filed.resource_at proper found
    rw [(held_eq_some_iff filed proper).mpr found]
    exact ⟨by rw [absentIfNotFound, readAs_same]; rfl, rfl, trivial⟩

/-- An object is created at a proper place where there is none. -/
theorem run_create (steady : server.IsSteady) (filed : server.IsFiled) (proper : place.IsProper)
    (absent : server.held kind place = none) {object : kind.Object}
    (within : object.metadata.namespaceName = some place.namespaceName)
    (named : object.metadata.name = some place.name) :
    let run := (perform (.write (.create ⟨kind, object⟩))).run handler server
    run.result = .ok () ∧ run.state = server.setHeld kind place (some object) ∧
      run.requests = [.create place.namespaceName ⟨kind, object⟩] := by
  intro run
  obtain ⟨asked, path⟩ := run_askAbout steady proper
    (.inr rfl : (Request.create place.namespaceName ⟨kind, object⟩).subject = kind.itemPath place ∨ _)
    (refuseRejection kind)
  have whole :
      run = (askAbout (.create place.namespaceName ⟨kind, object⟩) (refuseRejection kind)).run handler server :=
    congrArg (Program.run handler · server) (perform_create within)
  have added : create server.items (kind.itemPath place) ⟨kind, object⟩ =
      (.ok (), server.items.insert (kind.itemPath place) ⟨kind, object⟩) := by
    rw [create, SortedMap.contains_eq_isSome, (held_eq_none_iff filed proper).mp absent]
    rfl
  have answer : server.respond (.create place.namespaceName ⟨kind, object⟩) =
      (.ok (), server.items.insert (kind.itemPath place) ⟨kind, object⟩) := by
    rw [← added, respond, path, named]
    rfl
  rw [whole, asked, answer]
  exact ⟨rfl, rfl, rfl⟩

/-- An object is replaced by one of the same version. -/
theorem run_update (steady : server.IsSteady) (filed : server.IsFiled) (proper : place.IsProper)
    {stored object : kind.Object} (found : server.held kind place = some stored)
    (within : object.metadata.namespaceName = some place.namespaceName) (named : object.nameAny = place.name)
    (version : stored.metadata.resourceVersion = object.metadata.resourceVersion) :
    let run := (perform (.write (.update ⟨kind, object⟩))).run handler server
    run.result = .ok () ∧ run.state = server.setHeld kind place (some object) ∧
      run.requests = [.replace place ⟨kind, object⟩] := by
  intro run
  obtain ⟨asked, path⟩ := run_askAbout steady proper
    (.inl rfl : (Request.replace place ⟨kind, object⟩).subject = kind.itemPath place ∨ _) (refuseRejection kind)
  have whole : run = (askAbout (.replace place ⟨kind, object⟩) (refuseRejection kind)).run handler server :=
    congrArg (Program.run handler · server) (perform_update proper within named)
  have answer : server.respond (.replace place ⟨kind, object⟩) =
      (.ok (), server.items.insert (kind.itemPath place) ⟨kind, object⟩) := by
    simp only [respond, path, Request.subject, replace, (held_eq_some_iff filed proper).mp found, version, if_true]
  rw [whole, asked, answer]
  exact ⟨rfl, rfl, rfl⟩

/-- An object that is there is removed. -/
theorem run_delete (steady : server.IsSteady) (filed : server.IsFiled) (proper : place.IsProper)
    {object : kind.Object} (found : server.held kind place = some object) (policy : Option PropagationPolicy)
    (within : object.metadata.namespaceName = some place.namespaceName) (named : object.nameAny = place.name) :
    let run := (perform (.write (.delete ⟨kind, object⟩ policy))).run handler server
    run.result = .ok () ∧ run.state = server.setHeld kind place none ∧
      run.requests = [.remove kind place policy] := by
  intro run
  obtain ⟨asked, path⟩ := run_askAbout steady proper
    (.inl rfl : (Request.remove kind place policy).subject = kind.itemPath place ∨ _) (goneIfNotFound kind)
  have whole : run = (askAbout (.remove kind place policy) (goneIfNotFound kind)).run handler server :=
    congrArg (Program.run handler · server) (perform_delete proper within named policy)
  have answer : server.respond (.remove kind place policy) = (.ok (), server.items.erase (kind.itemPath place)) := by
    simp only [respond, path, Request.subject, remove, SortedMap.contains_eq_isSome,
      (held_eq_some_iff filed proper).mp found, Option.isSome_some, if_true]
  rw [whole, asked, answer]
  exact ⟨rfl, rfl, rfl⟩

end Exchanges

end Api.Server

namespace Verdict

/-- The result of carrying out a verdict where no write is refused. -/
def result : Verdict → Except Failure Outcome
  | finish result => result
  | write _ outcome => .ok outcome

/-- What is at the place of a call after its verdict has been carried out there. -/
def leaves {kind : Kind} (existing : Option kind.Object) : Verdict → Option kind.Object
  | finish _ => existing
  | write (.create resource) _ | write (.update resource) _ => resource.as? kind
  | write (.delete ..) _ => none

/-- The requests to the server that a verdict on the object at a place takes. -/
def sends (place : Place) : Verdict → List Api.Request
  | finish _ => []
  | write (.create resource) _ => [.create place.namespaceName resource]
  | write (.update resource) _ => [.replace place resource]
  | write (.delete resource policy) _ => [.remove resource.kind place policy]

end Verdict

namespace ObjectMeta

theorem nameAny_of_named {metadata : ObjectMeta} {name : String} (named : metadata.name = some name) :
    metadata.nameAny = name := by rw [nameAny, named, Option.some_or, Option.getD_some]

/-- What is at a proper place has a namespace. -/
theorem namespaceName_of_place {metadata : ObjectMeta} {place : Place} (proper : place.IsProper)
    (at_place : metadata.place = place) : metadata.namespaceName = some place.namespaceName := by
  have namespaceName : metadata.namespaceOrEmpty = place.namespaceName := congrArg (·.namespaceName) at_place
  cases given : metadata.namespaceName with
  | some given => simpa [namespaceOrEmpty, given] using namespaceName
  | none =>
    have empty : place.namespaceName = "" := by simpa [namespaceOrEmpty, given] using namespaceName.symm
    have nonempty := proper.namespaceName.nonempty
    rw [empty] at nonempty
    cases nonempty

end ObjectMeta

namespace Reconcile

variable {kind : Kind} {owner : Owner} {wanted : kind.Object} {existing : Option kind.Object}

/-- What there is to write: where there is no object, the adopted one is created; one that is there is replaced by
what the mutator makes of it, or removed. -/
inductive Writes (owner : Owner) (mutate : Mutate kind.Object) (wanted : kind.Object) :
    Option kind.Object → Write → Prop
  | create : Writes owner mutate wanted none (.create ⟨kind, (owner.adopt kind wanted).object⟩)
  | update (object : kind.Object) : Writes owner mutate wanted (some object)
      (.update ⟨kind, (mutate (owner.adopt kind (followed wanted object)).object wanted).object⟩)
  | delete (object : kind.Object) : Writes owner mutate wanted (some object)
      (.delete ⟨kind, object⟩ wanted.metadata.deletionPolicy?)

theorem writes_of_verdict {mutate : Mutate kind.Object} {change : Write} {outcome : Outcome}
    (decided : verdict owner mutate wanted existing = .write change outcome) :
    Writes owner mutate wanted existing change := by
  cases tagged : wanted.metadata.isTaggedForDeletion with
  | true =>
    cases existing with
    | none =>
      rw [verdict_none_of_tagged tagged] at decided
      cases decided
    | some object =>
      rw [verdict_some_of_tagged tagged] at decided
      cases decided
      exact .delete object
  | false =>
    cases existing with
    | none =>
      rw [verdict_none_of_untagged tagged] at decided
      split at decided
      · cases decided
      · cases decided
        exact .create
    | some object =>
      rw [verdict_some_of_untagged tagged] at decided
      obtain ⟨-, rfl⟩ := write_of_verdictOnExisting decided
      exact .update object

/-- What the three steps make of an object has the identity of the wanted one, and the version of the object. -/
theorem identity_of_mutated (owner : Owner) (mutator : Mutator kind) (wanted object : kind.Object) :
    let after := (mutator.mutate (owner.adopt kind (followed wanted object)).object wanted).object.metadata
    after.namespaceName = wanted.metadata.namespaceName ∧ after.name = wanted.metadata.name ∧
      after.resourceVersion = object.metadata.resourceVersion := by
  intro after
  have annotated := mutator.annotatedFrom (owner.adopt kind (followed wanted object)).object wanted
  obtain ⟨references, own⟩ := owner.object_adopt (followed wanted object)
  refine ⟨?_, ?_, ?_⟩
  · exact annotated.namespaceName.trans (by rw [own]; rfl)
  · exact annotated.name.trans (by rw [own]; rfl)
  · exact annotated.resourceVersion.trans (by rw [own]; rfl)

end Reconcile

namespace Api.Server

variable {kind : Kind} {owner : Owner} {mutator : Mutator kind} {server : Server} {place : Place}

/-- A write that takes one request, and what it leaves at the place of an object. -/
structure Performs (server : Server) (kind : Kind) (place : Place) (change : Write) (request : Request)
    (after : Option kind.Object) : Prop where
  result : ((perform (.write change)).run handler server).result = .ok ()
  state : ((perform (.write change)).run handler server).state = server.setHeld kind place after
  requests : ((perform (.write change)).run handler server).requests = [request]

/-- What there is to write about what a server holds at a proper place is written. -/
theorem performs_of_writes (steady : server.IsSteady) (filed : server.IsFiled) (proper : place.IsProper)
    {wanted : kind.Object} (within : wanted.metadata.namespaceName = some place.namespaceName)
    (named : wanted.metadata.name = some place.name) {existing : Option kind.Object}
    (found : server.held kind place = existing) {change : Write}
    (writes : Reconcile.Writes owner mutator.mutate wanted existing change) (outcome : Outcome) :
    ∃ request, (Verdict.write change outcome).sends place = [request] ∧
      Performs server kind place change request ((Verdict.write change outcome).leaves existing) := by
  cases writes with
  | create =>
    obtain ⟨references, own⟩ := owner.object_adopt wanted
    obtain ⟨result, state, requests⟩ := @run_create server kind place steady filed proper found
      (owner.adopt kind wanted).object (by rw [own]; exact within) (by rw [own]; exact named)
    refine ⟨_, rfl, result, state.trans ?_, requests⟩
    simp [Verdict.leaves]
  | update object =>
    obtain ⟨namespaceName, name, version⟩ := Reconcile.identity_of_mutated owner mutator wanted object
    obtain ⟨result, state, requests⟩ := run_update steady filed proper found (namespaceName.trans within)
      (ObjectMeta.nameAny_of_named (name.trans named)) version.symm
    refine ⟨_, rfl, result, state.trans ?_, requests⟩
    simp [Verdict.leaves]
  | delete object =>
    have at_place := filed.place_of_held proper found
    obtain ⟨result, state, requests⟩ := run_delete steady filed proper found wanted.metadata.deletionPolicy?
      (ObjectMeta.namespaceName_of_place proper at_place) (congrArg (·.name) at_place)
    exact ⟨_, rfl, result, state, requests⟩

/-- What a write leaves at a place is an object of this place. -/
theorem place_of_leaves {wanted : kind.Object}
    (within : wanted.metadata.namespaceName = some place.namespaceName) (named : wanted.metadata.name = some place.name)
    {existing : Option kind.Object} {change : Write}
    (writes : Reconcile.Writes owner mutator.mutate wanted existing change) (outcome : Outcome) :
    ∀ object, (Verdict.write change outcome).leaves existing = some object → object.metadata.place = place := by
  intro object left
  cases writes with
  | create =>
    simp only [Verdict.leaves, Resource.as?_same, Option.some.injEq] at left
    subst left
    exact (Reconcile.place_adopt owner wanted).trans (ObjectMeta.place_of_named within named)
  | update stored =>
    simp only [Verdict.leaves, Resource.as?_same, Option.some.injEq] at left
    subst left
    obtain ⟨namespaceName, name, -⟩ := Reconcile.identity_of_mutated owner mutator wanted stored
    exact ObjectMeta.place_of_named (namespaceName.trans within) (name.trans named)
  | delete stored => cases left

/-- A run that reads what there is, and then carries out a verdict on the object at a place. -/
structure Carries (server : Server) (kind : Kind) (place : Place) (verdict : Verdict)
    (run : Run Api Server (Except Failure Outcome)) : Prop where
  result : run.result = verdict.result
  state : run.state = server.setHeld kind place (verdict.leaves (server.held kind place))
  filed : run.state.IsFiled
  requests : ∃ asked, run.requests = asked ++ verdict.sends place ∧ ∀ request ∈ asked, request.method = "GET"

theorem carries_finish (filed : server.IsFiled) (proper : place.IsProper) (result : Except Failure Outcome) :
    Carries server kind place (.finish result) ⟨result, server, []⟩ :=
  ⟨rfl, (setHeld_held filed proper).symm, filed, [], rfl, fun _ within => absurd within List.not_mem_nil⟩

theorem Carries.isSteady {verdict : Verdict} {run : Run Api Server (Except Failure Outcome)}
    (carries : Carries server kind place verdict run) (steady : server.IsSteady) : run.state.IsSteady := by
  rw [carries.state]
  exact steady.setHeld _

/-- More can be read before. -/
theorem Carries.after {verdict : Verdict} {run : Run Api Server (Except Failure Outcome)}
    (carries : Carries server kind place verdict run) {exchanges : List (Exchange Api)}
    (reads : ∀ exchange ∈ exchanges, exchange.request.method = "GET") :
    Carries server kind place verdict ⟨run.result, run.state, exchanges ++ run.exchanges⟩ := by
  obtain ⟨asked, requests, gets⟩ := carries.requests
  refine ⟨carries.result, carries.state, carries.filed, exchanges.map (·.request) ++ asked, ?_, ?_⟩
  · rw [Run.requests, List.map_append, List.append_assoc, ← requests]
    rfl
  · exact List.forall_mem_append.mpr ⟨List.forall_mem_map.mpr reads, gets⟩

/-- A run that carries out a verdict to end only reads, and changes nothing. -/
theorem Carries.idle {result : Except Failure Outcome} {run : Run Api Server (Except Failure Outcome)}
    (carries : Carries server kind place (.finish result) run) (filed : server.IsFiled) (proper : place.IsProper) :
    run.result = result ∧ run.state = server ∧ ∀ exchange ∈ run.exchanges, exchange.request.method = "GET" := by
  obtain ⟨asked, requests, gets⟩ := carries.requests
  refine ⟨carries.result, carries.state.trans (setHeld_held filed proper), ?_⟩
  rw [Verdict.sends, List.append_nil] at requests
  exact List.forall_mem_map.mp (requests ▸ gets : ∀ request ∈ run.exchanges.map (·.request), _)

/-- A verdict on what a server holds at a proper place is carried out there. -/
theorem run_verdict (mutator : Mutator kind) (steady : server.IsSteady) (filed : server.IsFiled)
    (proper : place.IsProper) {wanted : kind.Object} (within : wanted.metadata.namespaceName = some place.namespaceName)
    (named : wanted.metadata.name = some place.name) :
    let verdict := Reconcile.verdict owner mutator.mutate wanted (server.held kind place)
    Carries server kind place verdict ((serve verdict.program).run handler server) := by
  intro verdict
  cases decided : verdict with
  | finish result => exact carries_finish filed proper result
  | write change outcome =>
    obtain ⟨request, sent, performs⟩ := performs_of_writes steady filed proper within named rfl
      (Reconcile.writes_of_verdict decided) outcome
    rw [run_program_write]
    refine ⟨congrArg (·.map fun _ => outcome) performs.result, performs.state, ?_, [], ?_, ?_⟩
    · exact performs.state ▸ filed.setHeld (place_of_leaves within named
        (Reconcile.writes_of_verdict decided) outcome)
    · rw [sent]
      exact performs.requests
    · exact fun _ within => absurd within List.not_mem_nil

/-- A call reads the object at its place, and carries out its verdict on it. -/
theorem carries_reconcile (mutator : Mutator kind) (steady : server.IsSteady) (filed : server.IsFiled) {name : String}
    (proper : (⟨owner.namespaceName, name⟩ : Place).IsProper) {desired : kind.Object}
    (named : desired.metadata.name = some name) :
    let place : Place := ⟨owner.namespaceName, name⟩
    Carries server kind place
      (Reconcile.verdict owner mutator.mutate (desired.inNamespace owner.namespaceName) (server.held kind place))
      ((serve (reconcile owner mutator.mutate desired)).run handler server) := by
  intro place
  obtain ⟨answer, state, asked⟩ := @run_get server kind place steady filed proper
  have carries := @run_verdict kind owner server place mutator steady filed proper
    (desired.inNamespace owner.namespaceName) rfl named
  have reads : ∀ exchange ∈ ((perform (.get kind place.namespaceName place.name)).run handler server).exchanges,
      exchange.request.method = "GET" := by
    intro exchange within
    have request := List.mem_map_of_mem (f := fun exchange : Exchange Api => exchange.request) within
    rw [← Run.requests, asked] at request
    rw [List.mem_singleton.mp request, Request.method]
  simp only [reconcile, named, serve_ask]
  rw [Program.run_bind_of answer state]
  simp only [Reconcile.settle_eq_program]
  exact carries.after reads

end Api.Server

end Reconciliation
