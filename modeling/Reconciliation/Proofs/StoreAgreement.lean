import Reconciliation.Proofs.MetadataGrowth
import Reconciliation.Proofs.ServerCalls

/-! # The two stores agree

A server *keeps objects as sent* if it does not find what is not there, adds an object only where there is none, and
otherwise stores what is sent under its kind, namespace and name. It is free to refuse an object that does not name
the version of the one that it replaces. A call over such a server and the same call in memory end in the same way
and leave the same objects (`Errand.agrees`): all that a call writes is for the place that it has read, in both. So
they do over any number of calls.
-/

namespace Reconciliation

variable {σ : Type}

/-- Whether a character can stand in a label of a domain name. -/
def isLabelChar (char : Char) : Bool :=
  decide (('a' ≤ char ∧ char ≤ 'z') ∨ ('0' ≤ char ∧ char ≤ '9') ∨ char = '-')

/-- A label of a domain name, as the names of namespaces and of many objects have to be. -/
structure IsDnsLabel (text : String) : Prop where
  nonempty : text.isEmpty = false
  short : text.utf8ByteSize ≤ 63
  plain : text.toList.all isLabelChar = true
  starts : text.toList.head? ≠ some '-'
  ends : text.toList.getLast? ≠ some '-'

instance (text : String) : Decidable (IsDnsLabel text) :=
  decidable_of_iff
    (text.isEmpty = false ∧ text.utf8ByteSize ≤ 63 ∧ text.toList.all isLabelChar = true ∧
      text.toList.head? ≠ some '-' ∧ text.toList.getLast? ≠ some '-')
    ⟨fun ⟨nonempty, short, plain, starts, ends⟩ => ⟨nonempty, short, plain, starts, ends⟩,
      fun ⟨nonempty, short, plain, starts, ends⟩ => ⟨nonempty, short, plain, starts, ends⟩⟩

theorem isPathChar_of_isLabelChar {char : Char} (plain : isLabelChar char = true) :
    Api.Target.isPathChar char = true := by
  refine decide_eq_true ⟨?_, fun special => ?_⟩
  · rcases of_decide_eq_true plain with ⟨low, -⟩ | ⟨low, -⟩ | rfl
    · exact Std.lt_of_lt_of_le (by decide) low
    · exact Std.lt_of_lt_of_le (by decide) low
    · decide
  · simp only [List.mem_cons, List.not_mem_nil, or_false] at special
    rcases special with rfl | rfl | rfl | rfl | rfl | rfl <;> revert plain <;> decide

theorem IsDnsLabel.isStep {text : String} (label : IsDnsLabel text) : IsStep text where
  nonempty := label.nonempty
  short := Nat.le_trans label.short (by decide)
  fits := List.all_eq_true.mpr fun char within =>
    isPathChar_of_isLabelChar (List.all_eq_true.mp label.plain char within)
  whole slash := absurd (List.all_eq_true.mp label.plain '/' slash) (by decide)

/-- Metadata that name a place in full. -/
structure ObjectMeta.IsAt (metadata : ObjectMeta) (place : Place) : Prop where
  namespaceName : metadata.namespaceName = some place.namespaceName
  name : metadata.name = some place.name

theorem ObjectMeta.IsAt.place {metadata : ObjectMeta} {place : Place} (full : metadata.IsAt place) :
    metadata.place = place := ObjectMeta.place_of_named full.namespaceName full.name

namespace Api

/-- A server that keeps objects by kind, namespace and name, as they are sent; `keeps` tells which objects it keeps in
a state. Only what it does at proper places is said. -/
structure KeepsAsSent (handler : Handler Api σ) (keeps : σ → Inventory → Prop) : Prop where
  read {state : σ} {inventory : Inventory} (kind : Kind) {place : Place} :
    keeps state inventory → place.IsProper →
      let (answer, after) := handler (.read kind place) state
      keeps after inventory ∧
        match inventory.get? kind place with
        | none => ∃ message, answer = .error (.status (.notFound message))
        | some object => answer = .ok ⟨kind, object⟩
  create {state : σ} {inventory : Inventory} {kind : Kind} {place : Place} {object : kind.Object} :
    keeps state inventory → place.IsProper → object.metadata.IsAt place →
      let (answer, after) := handler (.create place.namespaceName ⟨kind, object⟩) state
      match inventory.get? kind place with
      | none => answer = .ok () ∧ keeps after (inventory.put place ⟨kind, object⟩)
      | some _ => (∃ message, answer = .error (.status (.alreadyExists message))) ∧ keeps after inventory
  replace {state : σ} {inventory : Inventory} {kind : Kind} {place : Place} {object : kind.Object} :
    keeps state inventory → place.IsProper → object.metadata.IsAt place →
      let (answer, after) := handler (.replace place ⟨kind, object⟩) state
      match inventory.get? kind place with
      | none => (∃ message, answer = .error (.status (.notFound message))) ∧ keeps after inventory
      | some stored =>
          stored.metadata.resourceVersion = object.metadata.resourceVersion →
            answer = .ok () ∧ keeps after (inventory.put place ⟨kind, object⟩)
  remove {state : σ} {inventory : Inventory} (kind : Kind) {place : Place} (policy : Option PropagationPolicy) :
    keeps state inventory → place.IsProper →
      let (answer, after) := handler (.remove kind place policy) state
      match inventory.get? kind place with
      | none => (∃ message, answer = .error (.status (.notFound message))) ∧ keeps after inventory
      | some _ => answer = .ok () ∧ keeps after (inventory.remove kind place)

/-- Whether a request is for the object of a kind at a place. -/
def Request.IsFor (kind : Kind) (place : Place) : Request → Prop
  | read other elsewhere | remove other elsewhere _ => other = kind ∧ elsewhere = place
  | create namespaceName resource =>
      resource.kind = kind ∧ namespaceName = place.namespaceName ∧ resource.place = place
  | replace elsewhere resource => resource.kind = kind ∧ elsewhere = place ∧ resource.place = place
  | listGroups | listGroupResources .. | listCoreVersions | listCoreResources _ => False

/-- The run of a write that takes one request, for the object of a kind at a place, and what is kept afterwards. -/
structure Written (keeps : σ → Inventory → Prop) (kind : Kind) (place : Place) (after : Inventory)
    (run : Run Api σ (Except Failure Unit)) : Prop where
  result : run.result = .ok ()
  state : keeps run.state after
  requests : ∃ request, run.requests = [request] ∧ request.method ∈ ["POST", "PUT", "DELETE"] ∧
    request.IsFor kind place

namespace KeepsAsSent

variable {handler : Handler Api σ} {keeps : σ → Inventory → Prop} (sound : KeepsAsSent handler keeps) {state : σ}
  {inventory : Inventory} (kept : keeps state inventory) {kind : Kind} {place : Place} (proper : place.IsProper)
  {object : kind.Object}

include sound kept proper

/-- What is read is what is kept. -/
theorem run_get (kind : Kind) :
    let run := (perform (.get kind place.namespaceName place.name)).run handler state
    run.result = .ok (inventory.get? kind place) ∧ keeps run.state inventory ∧ run.requests = [.read kind place] := by
  rw [perform_get proper,
    run_askAbout_of_proper proper handler (.inl rfl : (Request.read kind place).subject = _ ∨ _ = _)]
  obtain ⟨still, answer⟩ := sound.read kind kept proper
  refine ⟨?_, still, rfl⟩
  cases found : inventory.get? kind place with
  | none =>
    rw [found] at answer
    obtain ⟨message, answer⟩ := answer
    rw [answer]
    rfl
  | some object =>
    rw [found] at answer
    rw [answer, absentIfNotFound, readAs_same]
    rfl

theorem run_create (absent : inventory.get? kind place = none) (full : object.metadata.IsAt place) :
    Written keeps kind place (inventory.put place ⟨kind, object⟩)
      ((perform (.write (.create ⟨kind, object⟩))).run handler state) := by
  have subject : (Request.create place.namespaceName ⟨kind, object⟩).subject = kind.itemPath place ∨
      (Request.create place.namespaceName ⟨kind, object⟩).subject = kind.collectionPath place.namespaceName := .inr rfl
  have done := sound.create kept proper full
  rw [absent] at done
  rw [perform_create full.namespaceName, run_askAbout_of_proper proper handler subject]
  refine ⟨?_, done.2, _, rfl, ?_, rfl, rfl, full.place⟩
  · exact congrArg (refuseRejection kind) done.1
  · simp [Request.method]

theorem run_update {stored : kind.Object} (found : inventory.get? kind place = some stored)
    (full : object.metadata.IsAt place) (version : stored.metadata.resourceVersion = object.metadata.resourceVersion) :
    Written keeps kind place (inventory.put place ⟨kind, object⟩)
      ((perform (.write (.update ⟨kind, object⟩))).run handler state) := by
  have named : object.nameAny = place.name := ObjectMeta.nameAny_of_named full.name
  have subject : (Request.replace place ⟨kind, object⟩).subject = kind.itemPath place ∨
      (Request.replace place ⟨kind, object⟩).subject = kind.collectionPath place.namespaceName := .inl rfl
  have done := sound.replace kept proper full
  rw [found] at done
  obtain ⟨answer, left⟩ := done version
  rw [perform_update proper full.namespaceName named, run_askAbout_of_proper proper handler subject]
  refine ⟨?_, left, _, rfl, ?_, rfl, rfl, full.place⟩
  · exact congrArg (refuseRejection kind) answer
  · simp [Request.method]

theorem run_delete (found : inventory.get? kind place = some object) (at_place : object.metadata.place = place)
    (policy : Option PropagationPolicy) :
    Written keeps kind place (inventory.remove kind place)
      ((perform (.write (.delete ⟨kind, object⟩ policy))).run handler state) := by
  have within := ObjectMeta.namespaceName_of_place proper at_place
  have named : object.nameAny = place.name := congrArg (·.name) at_place
  have subject : (Request.remove kind place policy).subject = kind.itemPath place ∨
      (Request.remove kind place policy).subject = kind.collectionPath place.namespaceName := .inl rfl
  have done := sound.remove kind policy kept proper
  rw [found] at done
  rw [perform_delete proper within named policy, run_askAbout_of_proper proper handler subject]
  refine ⟨?_, done.2, _, rfl, ?_, rfl, rfl⟩
  · exact congrArg (goneIfNotFound kind) done.1
  · simp [Request.method]

end KeepsAsSent

end Api

namespace MemoryStore

variable {inventory : Inventory} {kind : Kind} {place : Place} {object : kind.Object}

theorem apply_create_of_absent (absent : inventory.get? kind place = none) (at_place : object.metadata.place = place) :
    apply inventory (.create ⟨kind, object⟩) = (.ok (), inventory.put place ⟨kind, object⟩) := by
  subst at_place
  simp [apply, Resource.place, Inventory.contains_eq_isSome, absent]

theorem apply_update_of_present {stored : kind.Object} (found : inventory.get? kind place = some stored)
    (at_place : object.metadata.place = place) :
    apply inventory (.update ⟨kind, object⟩) = (.ok (), inventory.put place ⟨kind, object⟩) := by
  subst at_place
  simp [apply, Resource.place, Inventory.contains_eq_isSome, found]

theorem apply_delete_of_place (inventory : Inventory) (at_place : object.metadata.place = place)
    (policy : Option PropagationPolicy) :
    apply inventory (.delete ⟨kind, object⟩ policy) = (.ok (), inventory.remove kind place) := by
  subst at_place
  rfl

end MemoryStore

namespace Api.KeepsAsSent

variable {handler : Handler Api σ} {keeps : σ → Inventory → Prop} (sound : KeepsAsSent handler keeps) {state : σ}
  {inventory : Inventory} (kept : keeps state inventory) (filed : inventory.Filed) {kind : Kind} {place : Place}
  (proper : place.IsProper) {owner : Owner} {mutator : Mutator kind} {wanted : kind.Object}
  (full : wanted.metadata.IsAt place)

include sound kept filed proper full

/-- What there is to write is written in memory as well as over the server. -/
theorem run_write {change : Write}
    (writes : Reconcile.Writes owner mutator.mutate wanted (inventory.get? kind place) change) :
    (MemoryStore.apply inventory change).1 = .ok () ∧
      Written keeps kind place (MemoryStore.apply inventory change).2
        ((perform (.write change)).run handler state) := by
  generalize existing : inventory.get? kind place = found at writes
  cases writes with
  | create =>
    obtain ⟨references, own⟩ := owner.object_adopt wanted
    have adopted : (owner.adopt kind wanted).object.metadata.IsAt place := by
      rw [own]
      exact ⟨full.namespaceName, full.name⟩
    rw [MemoryStore.apply_create_of_absent existing adopted.place]
    exact ⟨rfl, sound.run_create kept proper existing adopted⟩
  | update stored =>
    obtain ⟨namespaceName, name, version⟩ := Reconcile.identity_of_mutated owner mutator wanted stored
    have mutated : (mutator.mutate (owner.adopt kind (Reconcile.followed wanted stored)).object
        wanted).object.metadata.IsAt place := ⟨namespaceName.trans full.namespaceName, name.trans full.name⟩
    rw [MemoryStore.apply_update_of_present existing mutated.place]
    exact ⟨rfl, sound.run_update kept proper existing mutated version.symm⟩
  | delete stored =>
    have at_place := filed kind place stored existing
    rw [MemoryStore.apply_delete_of_place inventory at_place]
    exact ⟨rfl, sound.run_delete kept proper existing at_place _⟩

/-- A verdict on what is kept has the effect over the server that it has in memory, by at most one write. -/
theorem run_verdict (owner : Owner) (mutator : Mutator kind) :
    let verdict := Reconcile.verdict owner mutator.mutate wanted (inventory.get? kind place)
    let run := (serve verdict.program).run handler state
    run.result = (verdict.effect inventory).1 ∧ keeps run.state (verdict.effect inventory).2 ∧
      run.requests.length ≤ 1 ∧
      ∀ request ∈ run.requests, request.method ∈ ["POST", "PUT", "DELETE"] ∧ request.IsFor kind place := by
  intro verdict run
  cases decided : verdict with
  | finish result =>
    have idle : run = ⟨result, state, []⟩ := by
      simp only [run, decided]
      rfl
    rw [idle]
    exact ⟨rfl, kept, Nat.zero_le 1, fun _ asked => absurd asked List.not_mem_nil⟩
  | write change outcome =>
    obtain ⟨applied, written⟩ := sound.run_write kept filed proper full (Reconcile.writes_of_verdict decided)
    obtain ⟨request, requests, method, about⟩ := written.requests
    have carried : run =
        ⟨((perform (.write change)).run handler state).result.map fun _ => outcome,
          ((perform (.write change)).run handler state).state,
          ((perform (.write change)).run handler state).exchanges⟩ := by
      simp only [run, decided, run_program_write]
    have asked : run.requests = [request] := by rw [carried]; exact requests
    refine ⟨?_, ?_, ?_, ?_⟩
    · rw [carried, written.result]
      simp only [Verdict.effect, applied]
    · rw [carried]
      exact written.state
    · rw [asked]
      exact Nat.le_refl 1
    · rw [asked]
      exact List.forall_mem_singleton.mpr ⟨method, about⟩

end Api.KeepsAsSent

namespace Errand

/-- A call over a server and the same call in memory end in the same way and leave the same objects, and over the
server the call reads once and writes at most once, all for the place of the object. -/
structure Agrees (keeps : σ → Inventory → Prop) (errand : Errand) (call : Run Api σ (Except Failure Outcome))
    (reference : Run Cluster MemoryCluster (Except Failure Outcome)) : Prop where
  result : call.result = reference.result
  objects : keeps call.state reference.state.store.inventory
  requests : ∃ name, errand.desired.metadata.name = some name ∧
    let place : Place := ⟨errand.owner.namespaceName, name⟩
    ∃ writes, call.requests = .read errand.kind place :: writes ∧ writes.length ≤ 1 ∧
      ∀ request ∈ writes, request.method ∈ ["POST", "PUT", "DELETE"] ∧ request.IsFor errand.kind place

/-- Whether a call is for an object with a name, and the namespace and name are proper. -/
def IsProper (errand : Errand) : Prop :=
  ∃ name, errand.desired.metadata.name = some name ∧ (⟨errand.owner.namespaceName, name⟩ : Place).IsProper

variable {handler : Handler Api σ} {keeps : σ → Inventory → Prop}

/-- One call over a server that keeps objects as sent is as in memory, where objects stay filed. -/
theorem agrees (sound : Api.KeepsAsSent handler keeps) {errand : Errand} (proper : errand.IsProper) {state : σ}
    {inventory : Inventory} (kept : keeps state inventory) (filed : inventory.Filed) (probe : ScriptedProbe) :
    let call := (Api.serve errand.program).run handler state
    let reference := errand.run (.calm inventory probe)
    errand.Agrees keeps call reference ∧
      ∃ after : Inventory, after.Filed ∧ reference.state = .calm after probe := by
  intro call reference
  obtain ⟨name, named, proper⟩ := proper
  let place : Place := ⟨errand.owner.namespaceName, name⟩
  let verdict := errand.verdict (inventory.get? errand.kind place)
  have full : errand.wanted.metadata.IsAt place := ⟨rfl, named⟩
  -- in memory the verdict has its effect
  obtain ⟨result, state_after, -⟩ := run_reconcile_calm errand.owner errand.mutator.mutate named inventory probe
  have state_after : reference.state = .calm (verdict.effect inventory).2 probe := state_after
  -- over the server the object is read, and then the verdict carried out
  let first := (Api.perform (.get errand.kind place.namespaceName place.name)).run handler state
  obtain ⟨read, still, asked⟩ := sound.run_get kept proper errand.kind
  obtain ⟨ended, left, few, writes⟩ := sound.run_verdict still filed proper full errand.owner errand.mutator
  have runs : call =
      let rest := (Api.serve verdict.program).run handler first.state
      ⟨rest.result, rest.state, first.exchanges ++ rest.exchanges⟩ := by
    simp only [call, program, reconcile, named, Api.serve_ask]
    rw [Program.run_bind_of read rfl]
    simp only [Reconcile.settle_eq_program]
    rfl
  refine ⟨⟨?_, ?_, name, named, _, ?_, few, writes⟩, _, ?_, state_after⟩
  · rw [runs]
    exact ended.trans result.symm
  · rw [runs, state_after]
    exact left
  · rw [runs, Run.requests, List.map_append]
    exact congrArg (· ++ _) asked
  · cases decided : verdict with
    | finish result => exact filed
    | write change outcome => exact MemoryStore.filed_apply filed change

end Errand

/-- Any number of calls, one after the other, over a server that keeps objects as sent and in memory. -/
theorem stores_agree {handler : Handler Api σ} {keeps : σ → Inventory → Prop} (sound : Api.KeepsAsSent handler keeps)
    (errands : List Errand) (proper : ∀ errand ∈ errands, errand.IsProper) {state : σ} {inventory : Inventory}
    (kept : keeps state inventory) (filed : inventory.Filed) (probe : ScriptedProbe) :
    let overServer := Program.runEach handler (errands.map fun errand => Api.serve errand.program) state
    let inMemory := Program.runEach MemoryCluster.handler (errands.map Errand.program) (.calm inventory probe)
    ∀ (index : Nat) (errand : Errand), errands[index]? = some errand →
      ∃ call reference, overServer[index]? = some call ∧ inMemory[index]? = some reference ∧
        errand.Agrees keeps call reference := by
  induction errands generalizing state inventory with
  | nil => exact fun index errand listed => nomatch listed
  | cons first rest ih =>
    intro overServer inMemory index errand listed
    obtain ⟨here, later⟩ := List.forall_mem_cons.mp proper
    obtain ⟨agrees, after, filed_after, left⟩ := Errand.agrees sound here kept filed probe
    cases index with
    | zero =>
      obtain rfl := Option.some.inj listed
      exact ⟨_, _, rfl, rfl, agrees⟩
    | succ index =>
      have kept_after : keeps ((Api.serve first.program).run handler state).state after := by
        have objects := agrees.objects
        rw [left] at objects
        exact objects
      obtain ⟨call, reference, sent, inside, rests⟩ := ih later kept_after filed_after index errand listed
      refine ⟨call, reference, sent, ?_, rests⟩
      rw [← left] at inside
      exact inside

namespace Api.Server

/-- A steady server that holds the objects of an inventory. -/
structure Mirrors (server : Server) (inventory : Inventory) : Prop where
  steady : server.IsSteady
  filed : server.IsFiled
  same : ∀ (kind : Kind) (place : Place), place.IsProper → server.held kind place = inventory.get? kind place

namespace Mirrors

variable {server : Server} {inventory : Inventory} {kind : Kind} {place : Place}

/-- What is done at one place is done there only. -/
theorem setHeld (mirrors : server.Mirrors inventory) {object : Option kind.Object}
    (at_place : ∀ found, object = some found → found.metadata.place = place) {after : Inventory}
    (here : after.get? kind place = object)
    (others : ∀ (other : Kind) (elsewhere : Place), (kind, place) ≠ (other, elsewhere) →
      after.get? other elsewhere = inventory.get? other elsewhere) :
    (server.setHeld kind place object).Mirrors after where
  steady := mirrors.steady.setHeld object
  filed := mirrors.filed.setHeld at_place
  same other elsewhere usual := by
    by_cases same : (kind, place) = (other, elsewhere)
    · cases same
      rw [held_setHeld_self, here]
    · have apart : kind.itemPath place ≠ other.itemPath elsewhere := by
        intro paths
        obtain ⟨rfl, rfl⟩ := Kind.eq_of_itemPath_eq usual paths
        exact same rfl
      rw [others other elsewhere same, ← mirrors.same other elsewhere usual, held, held, get?_setHeld_of_ne _ apart]

theorem put (mirrors : server.Mirrors inventory) {object : kind.Object} (at_place : object.metadata.place = place) :
    (server.setHeld kind place (some object)).Mirrors (inventory.put place ⟨kind, object⟩) := by
  refine mirrors.setHeld ?_ (Inventory.get?_put_same ..) fun _ _ => Inventory.get?_put_of_ne inventory object
  rintro _ ⟨⟩
  exact at_place

theorem remove (mirrors : server.Mirrors inventory) :
    (server.setHeld kind place none).Mirrors (inventory.remove kind place) := by
  refine mirrors.setHeld ?_ (Inventory.get?_remove_same ..) fun _ _ => Inventory.get?_remove_of_ne inventory
  rintro _ ⟨⟩

/-- What is under the path of a proper place. -/
theorem get?_itemPath (mirrors : server.Mirrors inventory) (proper : place.IsProper) :
    server.items.get? (kind.itemPath place) = (inventory.get? kind place).map (⟨kind, ·⟩) := by
  rw [← mirrors.same kind place proper]
  cases found : server.held kind place with
  | none => exact (held_eq_none_iff mirrors.filed proper).mp found
  | some object => exact (held_eq_some_iff mirrors.filed proper).mp found

theorem answers (mirrors : server.Mirrors inventory) (kind : Kind) (proper : place.IsProper) (request : Request)
    (subject : request.subject = kind.itemPath place ∨ request.subject = kind.collectionPath place.namespaceName) :
    handler request server = ((server.respond request).1, { server with items := (server.respond request).2 }) ∧
      request.path = request.subject :=
  ⟨handler_of_proper mirrors.steady proper subject, (Request.sent_of_proper proper subject).2⟩

end Mirrors

/-- A steady server keeps objects as sent, and refuses those that do not name the version that they replace. -/
theorem keepsAsSent : KeepsAsSent handler Mirrors where
  read {server inventory} kind {place} mirrors proper := by
    obtain ⟨answered, path⟩ := mirrors.answers kind proper (.read kind place) (.inl rfl)
    rw [answered]
    simp only [respond, path, Request.subject, mirrors.get?_itemPath proper]
    cases inventory.get? kind place with
    | none => exact ⟨mirrors, _, rfl⟩
    | some object => exact ⟨mirrors, rfl⟩
  create {server inventory kind place object} mirrors proper full := by
    obtain ⟨answered, path⟩ :=
      mirrors.answers kind proper (.create place.namespaceName ⟨kind, object⟩) (.inr rfl)
    have item : kind.collectionPath place.namespaceName ++ "/" ++ place.name = kind.itemPath place := rfl
    rw [answered]
    simp only [respond, path, Request.subject, full.name, Option.getD_some, item, create,
      SortedMap.contains_eq_isSome, mirrors.get?_itemPath proper]
    cases inventory.get? kind place with
    | none => exact ⟨rfl, mirrors.put full.place⟩
    | some stored => exact ⟨⟨_, rfl⟩, mirrors⟩
  replace {server inventory kind place object} mirrors proper full := by
    obtain ⟨answered, path⟩ := mirrors.answers kind proper (.replace place ⟨kind, object⟩) (.inl rfl)
    rw [answered]
    simp only [respond, path, Request.subject, replace, mirrors.get?_itemPath proper]
    cases inventory.get? kind place with
    | none => exact ⟨⟨_, rfl⟩, mirrors⟩
    | some stored =>
      intro version
      simp only [Option.map_some, version, if_true]
      exact ⟨trivial, mirrors.put full.place⟩
  remove {server inventory} kind {place} policy mirrors proper := by
    obtain ⟨answered, path⟩ := mirrors.answers kind proper (.remove kind place policy) (.inl rfl)
    rw [answered]
    simp only [respond, path, Request.subject, remove, SortedMap.contains_eq_isSome, mirrors.get?_itemPath proper]
    cases inventory.get? kind place with
    | none => exact ⟨⟨_, rfl⟩, mirrors⟩
    | some stored => exact ⟨rfl, mirrors.remove⟩

end Api.Server

/-- A server that starts without objects holds none. -/
theorem Api.Server.mirrors_empty (groups : List ServedGroup) (core : List ServedVersion) :
    (⟨.empty, groups, core, []⟩ : Server).Mirrors .empty where
  steady := ⟨fun _ prepared => absurd prepared List.not_mem_nil, fun _ prepared => absurd prepared List.not_mem_nil⟩
  filed := isFiled_empty groups core []
  same _ _ _ := rfl

/-- Settings are created by one owner, refused to another one, and deleted by the first one. -/
theorem stores_agree_on_settings :
    let owner (name uid : String) : Owner :=
      ⟨"prod", { apiVersion := "v1", controller := some true, kind := "AppStack", name, uid }⟩
    let settings : Kind.configMap.Object := ⟨{ name := some "settings" }, {}⟩
    let errand (owner : Owner) (desired : Kind.configMap.Object) : Errand :=
      ⟨owner, @Mutator.rule .configMap .data, desired⟩
    let errands := [errand (owner "shop" "1") settings, errand (owner "blog" "2") settings,
      errand (owner "shop" "1") (settings.tagForDeletion none)]
    let calls := Program.runEach Api.Server.handler (errands.map fun errand => Api.serve errand.program)
      ⟨.empty, [], [], []⟩
    calls[0]?.map (·.result) = some (.ok .created) ∧
      calls[1]?.map (·.result) =
        some (.error (.ownershipConflict "ConfigMap" "prod" "settings" "AppStack/shop")) ∧
      ∃ call, calls[2]? = some call ∧ call.result = .ok .deleted ∧
        call.state.held .configMap ⟨"prod", "settings"⟩ = none := by
  intro owner settings errand errands calls
  let inMemory := Program.runEach MemoryCluster.handler (errands.map Errand.program) (.calm .empty ⟨[], true⟩)
  have place : (⟨"prod", "settings"⟩ : Place).IsProper :=
    ⟨IsDnsLabel.isStep (by decide +kernel), IsDnsLabel.isStep (by decide +kernel)⟩
  have proper : ∀ errand ∈ errands, errand.IsProper := by
    simp only [errands, List.forall_mem_cons]
    exact ⟨⟨_, rfl, place⟩, ⟨_, rfl, place⟩, ⟨_, rfl, place⟩, fun _ within => absurd within List.not_mem_nil⟩
  have all := stores_agree Api.Server.keepsAsSent errands proper (Api.Server.mirrors_empty [] [])
    Inventory.filed_empty ⟨[], true⟩
  have ends (index : Nat) (errand : Errand) (listed : errands[index]? = some errand) :
      calls[index]?.map (·.result) = inMemory[index]?.map (·.result) := by
    obtain ⟨call, reference, sent, inside, agrees⟩ := all index errand listed
    rw [sent, inside]
    exact congrArg some agrees.result
  obtain ⟨call, reference, sent, inside, agrees⟩ := all 2 _ rfl
  have deleted := ends 2 _ rfl
  have left : inMemory[2]?.map (fun run => (run.state.store.inventory.get? .configMap ⟨"prod", "settings"⟩).isNone) =
      some true := by decide +kernel
  rw [sent] at deleted
  rw [inside] at left
  refine ⟨(ends 0 _ rfl).trans (by decide +kernel), (ends 1 _ rfl).trans (by decide +kernel), call, sent, ?_, ?_⟩
  · exact Option.some.inj (deleted.trans (by decide +kernel))
  · rw [agrees.objects.same .configMap _ place]
    exact Option.isNone_iff_eq_none.mp (Option.some.inj left)

end Reconciliation
