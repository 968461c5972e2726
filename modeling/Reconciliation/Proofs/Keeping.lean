import Reconciliation.Proofs.Settlement

/-! # What a server keeps

A server that refuses or forgets what it likes still keeps what it has accepted: after a call that has succeeded it has
an object of the wanted place with which the same call would find nothing to do. Requests about objects of one kind
touch only what is below the root of this kind, so calls about kinds of other groups and versions leave it there. That
needs neither proper names nor any order among what was there before.
-/

namespace Reconciliation

namespace Api.Target

/-- What follows a subject from a question mark on does not belong to its path. -/
theorem path_append {subject rest : String} (ended : rest = "" ∨ ∃ query, rest = "?" ++ query) :
    (ofString (subject ++ rest)).path = (ofString subject).path := by
  rcases ended with rfl | ⟨query, rfl⟩
  · rw [String.append_empty]
  · have cut (text : List Char) :
        ((text ++ '?' :: query.toList).takeWhile (· != '#')).takeWhile (· != '?') =
          (text.takeWhile (· != '#')).takeWhile (· != '?') := by
      induction text with
      | nil => rfl
      | cons char rest ih =>
        simp only [List.cons_append, List.takeWhile_cons]
        split
        · simp only [List.takeWhile_cons, ih]
        · rfl
    have written : (subject ++ ("?" ++ query)).toList = subject.toList ++ '?' :: query.toList := by simp
    simp only [ofString, written, cut]

end Api.Target

namespace Kind

/-- The path is below the root of the kind. -/
def Owns (kind : Kind) (path : String) : Prop := (kind.rootPath ++ "/namespaces/").toList <+: path.toList

/-- No path is below the roots of both kinds. -/
def Apart (kind other : Kind) : Prop := ∀ path, kind.Owns path → ¬ other.Owns path

theorem apart_of_roots {kind other : Kind}
    (first : ¬ (kind.rootPath ++ "/namespaces/").toList <+: (other.rootPath ++ "/namespaces/").toList)
    (second : ¬ (other.rootPath ++ "/namespaces/").toList <+: (kind.rootPath ++ "/namespaces/").toList) :
    kind.Apart other := by
  intro path owns others
  rcases List.prefix_or_prefix_of_prefix owns others with shorter | longer
  · exact first shorter
  · exact second longer

theorem Owns.append {kind : Kind} {path : String} (owns : kind.Owns path) (rest : String) :
    kind.Owns (path ++ rest) := by
  have written : (path ++ rest).toList = path.toList ++ rest.toList := String.toList_append
  rw [Owns, written]
  exact owns.trans (List.prefix_append _ _)

theorem owns_collectionPath (kind : Kind) (namespaceName : String) : kind.Owns (kind.collectionPath namespaceName) := by
  have root : kind.Owns (kind.rootPath ++ "/namespaces/") := List.prefix_rfl
  rw [collectionPath, String.append_assoc, String.append_assoc]
  exact root.append _

theorem owns_itemPath (kind : Kind) (place : Place) : kind.Owns (kind.itemPath place) := by
  rw [itemPath, String.append_assoc]
  exact (kind.owns_collectionPath place.namespaceName).append _

/-- A path that ends early is still below the root. -/
theorem Owns.target {kind : Kind} {address : String} (owns : kind.Owns address) :
    kind.Owns (Api.Target.ofString address).path := by
  have allowed := fun char within =>
    Api.Target.ne_of_isPathChar (List.all_eq_true.mp (Api.FitsPath.root kind).fits char within)
  obtain ⟨rest, same⟩ := owns
  rw [Owns, Api.Target.ofString, ← same, String.toList_ofList,
    List.takeWhile_append_of_pos fun char within => (allowed char within).2,
    List.takeWhile_append_of_pos fun char within => (allowed char within).1]
  exact List.prefix_append _ _

end Kind

namespace Api

namespace Request

/-- The path of a request is that of its subject. -/
theorem path_eq (request : Request) : request.path = (Target.ofString request.subject).path := by
  refine Target.path_append (request.parameters_cases.imp_right fun ⟨query, given, _⟩ => ⟨query, given⟩)

theorem owns_path {request : Request} {kind : Kind} (about : request.kind? = some kind) : kind.Owns request.path := by
  rw [path_eq]
  cases request with
  | read _ place | remove _ place _ | replace place _ =>
    cases about
    exact (Kind.owns_itemPath _ place).target
  | create namespaceName _ =>
    cases about
    exact (Kind.owns_collectionPath _ namespaceName).target
  | _ => cases about

end Request

namespace Server

section Frames

variable {server : Server} {request : Request} {kind : Kind} {path : String}

theorem get?_create_of_ne {items : SortedMap String Resource} {added : String} (resource : Resource)
    (apart : added ≠ path) : (create items added resource).2.get? path = items.get? path := by
  rw [create]
  split
  · rfl
  · exact SortedMap.get?_insert_of_ne _ apart _

theorem get?_replace_of_ne {items : SortedMap String Resource} {replaced : String} (resource : Resource)
    (apart : replaced ≠ path) : (replace items replaced resource).2.get? path = items.get? path := by
  rw [replace]
  split
  · rfl
  · split
    · exact SortedMap.get?_insert_of_ne _ apart _
    · rfl

theorem get?_remove_of_ne {items : SortedMap String Resource} {removed : String} (apart : removed ≠ path) :
    (remove items removed).2.get? path = items.get? path := by
  rw [remove]
  split
  · exact SortedMap.get?_erase_of_ne _ apart
  · rfl

/-- A request about a kind changes nothing that is not below the root of the kind. -/
theorem get?_handler_of_about (about : request.kind? = some kind) (outside : ¬ kind.Owns path) :
    (handler request server).2.items.get? path = server.items.get? path := by
  have own := request.owns_path about
  have apart : request.path ≠ path := fun same => outside (same ▸ own)
  rw [handler]
  split
  · rfl
  · cases request with
    | read _ _ => simp only [respond]; split <;> rfl
    | create _ resource => exact get?_create_of_ne resource fun same => outside (same ▸ (own.append "/").append _)
    | replace _ resource => exact get?_replace_of_ne resource apart
    | remove _ _ _ => exact get?_remove_of_ne apart
    | _ => rfl

theorem items_handler_of_discovery (discovery : request.IsDiscovery) :
    (handler request server).2.items = server.items := by
  rw [handler]
  split
  · rfl
  · exact items_respond_of_discovery discovery

end Frames

section Successes

variable {server : Server} {request : Request} {kind : Kind} {α : Type}

/-- A success is no fault. -/
theorem respond_of_ok {found : request.Success} (answered : (handler request server).1 = .ok found) :
    (server.respond request).1 = .ok found ∧ (handler request server).2.items = (server.respond request).2 := by
  rw [handler] at answered ⊢
  split at answered
  · cases answered
  · exact ⟨answered, rfl⟩

theorem ok_of_askAbout {judge : request.Answer → Except Failure α} {result : α}
    (success : ((askAbout request judge).run handler server).result = .ok result) :
    judge (handler request server).1 = .ok result ∧
      ((askAbout request judge).run handler server).state = (handler request server).2 := by
  rw [askAbout] at success ⊢
  split at success
  · exact ⟨success, rfl⟩
  · cases success

theorem ok_of_askItem {name : String} {judge : request.Answer → Except Failure α} {result : α}
    (success : ((askItem name request judge).run handler server).result = .ok result) :
    judge (handler request server).1 = .ok result ∧
      ((askItem name request judge).run handler server).state = (handler request server).2 := by
  rw [askItem] at success ⊢
  split at success
  · cases success
  · next filled =>
    rw [if_neg filled]
    exact ok_of_askAbout success

theorem ok_of_map {written : Except Failure Unit} {done outcome : Outcome}
    (success : (written.map fun _ => done) = .ok outcome) : written = .ok () := by
  cases written with
  | error failure => cases success
  | ok done => rfl

theorem ok_of_refuseRejection {answer : Except Rejection Unit} (accepted : refuseRejection kind answer = .ok ()) :
    answer = .ok () := by
  cases answer with
  | ok done => rfl
  | error rejection => cases accepted

theorem ok_of_absentIfNotFound {answer : Except Rejection Resource} {object : kind.Object}
    (found : absentIfNotFound kind answer = .ok (some object)) :
    ∃ resource, answer = .ok resource ∧ readAs kind resource = .ok object := by
  cases answer with
  | error rejection =>
    rw [absentIfNotFound] at found
    split at found <;> cases found
  | ok resource =>
    refine ⟨resource, rfl, ?_⟩
    rw [absentIfNotFound] at found
    cases taken : readAs kind resource with
    | error failure =>
      rw [taken] at found
      cases found
    | ok other =>
      rw [taken] at found
      cases found
      rfl

theorem respond_read (server : Server) (kind : Kind) (place : Place) :
    server.respond (.read kind place) =
      (match server.items.get? (Request.read kind place).path with
        | some resource => .ok resource
        | none => .error .notFound, server.items) := by
  simp only [respond]
  cases server.items.get? (Request.read kind place).path <;> rfl

/-- An object that is read is what is under its path, and reading changes no object. -/
theorem ok_of_get {namespaceName name : String} {existing : Option kind.Object}
    (success : ((perform (.get kind namespaceName name)).run handler server).result = .ok existing) :
    ((perform (.get kind namespaceName name)).run handler server).state.items = server.items ∧
      ∀ object, existing = some object → ∃ resource,
        server.items.get? (Request.read kind ⟨namespaceName, name⟩).path = some resource ∧
          readAs kind resource = .ok object := by
  obtain ⟨judged, state⟩ := ok_of_askItem success
  refine ⟨(congrArg (·.items) state).trans ?_, ?_⟩
  · rw [handler, respond_read]
    split <;> rfl
  · rintro object rfl
    obtain ⟨resource, answered, taken⟩ := ok_of_absentIfNotFound judged
    obtain ⟨found, -⟩ := respond_of_ok answered
    rw [respond_read] at found
    split at found
    · next there =>
      cases found
      exact ⟨resource, there, taken⟩
    · cases found

end Successes

end Server

end Api

/-- The paths under which there can be an object of a place: the one that requests for it go to, and the one where it is
added. They are one and the same unless the namespace or the name ends the path early. -/
def Kind.pathsOf (kind : Kind) (place : Place) : List String :=
  [(Api.Target.ofString (kind.itemPath place)).path,
    (Api.Target.ofString (kind.collectionPath place.namespaceName)).path ++ "/" ++ place.name]

theorem Kind.owns_of_mem_pathsOf {kind : Kind} {place : Place} {path : String} (among : path ∈ kind.pathsOf place) :
    kind.Owns path := by
  rcases List.mem_pair.mp among with rfl | rfl
  · exact (kind.owns_itemPath place).target
  · exact ((kind.owns_collectionPath place.namespaceName).target.append _).append _

namespace Api.Server

/-- The server has an object under a path of a kind and place, where reading the kind gives this object. -/
def Keeps (server : Server) (kind : Kind) (place : Place) (object : kind.Object) : Prop :=
  ∃ path ∈ kind.pathsOf place, ∃ resource, server.items.get? path = some resource ∧ readAs kind resource = .ok object

section Keeps

variable {server later : Server} {kind : Kind} {place : Place}

/-- An object is kept where nothing below the root of its kind changes. -/
theorem Keeps.of_same {object : kind.Object} (keeps : server.Keeps kind place object)
    (same : ∀ path, kind.Owns path → later.items.get? path = server.items.get? path) :
    later.Keeps kind place object := by
  obtain ⟨path, among, resource, found, read⟩ := keeps
  exact ⟨path, among, resource, (same path (Kind.owns_of_mem_pathsOf among)).trans found, read⟩

/-- Under a proper place there is one path only. -/
theorem pathsOf_of_proper (proper : place.IsProper) : ∀ path ∈ kind.pathsOf place, path = kind.itemPath place := by
  intro path among
  rcases List.mem_pair.mp among with rfl | rfl
  · rw [Target.ofString_path (FitsPath.itemPath kind proper).fits]
  · rw [Target.ofString_path (FitsPath.collectionPath kind proper.namespaceName).fits]
    rfl

/-- What a filed server keeps at a proper place is what it holds there. -/
theorem keeps_iff_held (filed : server.IsFiled) (proper : place.IsProper) {object : kind.Object} :
    server.Keeps kind place object ↔ server.held kind place = some object := by
  constructor
  · rintro ⟨path, among, resource, found, read⟩
    rw [pathsOf_of_proper proper _ among] at found
    obtain ⟨stored, rfl, -⟩ := filed.resource_at proper found
    rw [readAs_same] at read
    exact (held_eq_some_iff filed proper).mpr (Except.ok.inj read ▸ found)
  · intro held
    refine ⟨_, List.mem_cons_self, _, ?_, readAs_same kind object⟩
    rw [Target.ofString_path (FitsPath.itemPath kind proper).fits]
    exact (held_eq_some_iff filed proper).mp held

end Keeps

section Writes

variable {server : Server} {kind : Kind} {place : Place} {object : kind.Object}

/-- An object that has been created is kept. -/
theorem keeps_of_create (within : object.metadata.namespaceName = some place.namespaceName)
    (named : object.metadata.name = some place.name)
    (success : ((perform (.write (.create ⟨kind, object⟩))).run handler server).result = .ok ()) :
    ((perform (.write (.create ⟨kind, object⟩))).run handler server).state.Keeps kind place object := by
  simp only [perform, performWrite, inItsNamespace, within] at success ⊢
  obtain ⟨judged, state⟩ := ok_of_askAbout success
  obtain ⟨accepted, items⟩ := respond_of_ok (ok_of_refuseRejection judged)
  refine ⟨_, List.mem_cons_of_mem _ List.mem_cons_self, ⟨kind, object⟩, ?_, readAs_same kind object⟩
  rw [state, items]
  simp only [respond, create, Request.path_eq, Request.subject, named, Option.getD_some] at accepted ⊢
  split at accepted
  · cases accepted
  · next free =>
    rw [if_neg free]
    exact SortedMap.get?_insert_self ..

/-- An object that has replaced another one is kept. -/
theorem keeps_of_update (within : object.metadata.namespaceName = some place.namespaceName)
    (named : object.metadata.name = some place.name)
    (success : ((perform (.write (.update ⟨kind, object⟩))).run handler server).result = .ok ()) :
    ((perform (.write (.update ⟨kind, object⟩))).run handler server).state.Keeps kind place object := by
  obtain ⟨namespaceName, name⟩ := place
  obtain rfl : object.nameAny = name := ObjectMeta.nameAny_of_named named
  simp only [perform, performWrite, inItsNamespace, within] at success ⊢
  obtain ⟨judged, state⟩ := ok_of_askItem success
  obtain ⟨accepted, items⟩ := respond_of_ok (ok_of_refuseRejection judged)
  refine ⟨_, List.mem_cons_self, ⟨kind, object⟩, ?_, readAs_same kind object⟩
  rw [state, items]
  simp only [respond, replace, Request.path_eq, Request.subject] at accepted ⊢
  split at accepted
  · cases accepted
  · split at accepted
    · next version => simp only [version, if_true, SortedMap.get?_insert_self]
    · cases accepted

end Writes

section Calls

variable {owner : Owner} {kind : Kind} {mutator : Mutator kind} {server : Server} {name : String}

/-- After a call that has succeeded, the server keeps an object with which there is nothing to do. -/
theorem keeps_of_reconcile {desired : kind.Object} (named : desired.metadata.name = some name)
    (untagged : desired.metadata.isTaggedForDeletion = false)
    (settles : mutator.mutate.SettlesAt (desired.inNamespace owner.namespaceName))
    (accepts : mutator.Accepts desired.content) {outcome : Outcome}
    (success : ((serve (reconcile owner mutator.mutate desired)).run handler server).result = .ok outcome) :
    ∃ left, ((serve (reconcile owner mutator.mutate desired)).run handler server).state.Keeps kind
        ⟨owner.namespaceName, name⟩ left ∧
      Reconcile.verdict owner mutator.mutate (desired.inNamespace owner.namespaceName) (some left) =
        .finish (.ok .unchanged) := by
  let wanted := desired.inNamespace owner.namespaceName
  have tag : wanted.metadata.isTaggedForDeletion = false := untagged
  simp only [reconcile, named, serve_ask] at success ⊢
  cases read : ((perform (.get kind owner.namespaceName name)).run handler server).result with
  | error failure =>
    rw [Program.run_bind_of read rfl] at success
    cases success
  | ok existing =>
    obtain ⟨items, there⟩ := ok_of_get read
    rw [Program.run_bind_of read rfl] at success ⊢
    simp only [Reconcile.settle_eq_program] at success ⊢
    have again {change : Write} {done : Outcome}
        (decided : Reconcile.verdict owner mutator.mutate wanted existing = .write change done) :
        Reconcile.verdict owner mutator.mutate wanted ((Verdict.write change done).leaves existing) =
          .finish (.ok .unchanged) :=
      decided ▸ @Reconcile.verdict_again kind owner mutator wanted settles accepts existing done
        (by rw [decided]; rfl)
    cases decided : Reconcile.verdict owner mutator.mutate wanted existing with
    | finish result =>
      rw [decided] at success
      cases existing with
      | none =>
        -- an object that is wanted is not just left absent
        rw [Reconcile.verdict_none_of_untagged tag] at decided
        split at decided
        · cases decided
          cases success
        · cases decided
      | some object =>
        obtain ⟨resource, found, taken⟩ := there object rfl
        obtain rfl : result = .ok outcome := success
        rw [Reconcile.verdict_some_of_untagged tag] at decided
        refine ⟨object, ⟨_, List.mem_cons_self, resource, ?_, taken⟩, ?_⟩
        · rw [Request.path_eq] at found
          exact items ▸ found
        · rw [Reconcile.verdict_some_of_untagged tag, decided, Reconcile.unchanged_of_finish decided]
    | write change done =>
      rw [decided, run_program_write] at success
      have written : ((perform (.write change)).run handler
          ((perform (.get kind owner.namespaceName name)).run handler server).state).result = .ok () :=
        ok_of_map success
      have settled := again decided
      rw [run_program_write]
      cases existing with
      | none =>
        obtain ⟨⟩ := Reconcile.writes_of_verdict decided
        obtain ⟨references, own⟩ := owner.object_adopt wanted
        have kept := @keeps_of_create _ kind ⟨owner.namespaceName, name⟩ _ (by rw [own]; rfl) (by rw [own]; exact named)
          written
        simp only [Verdict.leaves, Resource.as?_same] at settled
        exact ⟨_, kept, settled⟩
      | some object =>
        rw [Reconcile.verdict_some_of_untagged tag] at decided
        obtain ⟨-, rfl⟩ := Reconcile.write_of_verdictOnExisting decided
        obtain ⟨placed, called, -⟩ := Reconcile.identity_of_mutated owner mutator wanted object
        have kept := @keeps_of_update _ kind ⟨owner.namespaceName, name⟩ _ placed (called.trans named) written
        simp only [Verdict.leaves, Resource.as?_same] at settled
        exact ⟨_, kept, settled⟩

end Calls

end Api.Server

end Reconciliation
