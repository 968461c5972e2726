import Reconciliation.Proofs.FourWays

/-! # Metadata only grow

Nothing that a call for a wanted object does to metadata takes anything away. The wanted labels and
annotations are put in and the others stay, the reference of the owner is set and those to strangers stay,
and all the rest of the metadata, from the uid to the finalizers, is bookkeeping that nobody touches.
Whether the call creates the object, updates it or finds nothing to do, what is stored afterwards has
*joined* what was there and what is wanted (`ObjectMeta.Joins`). A call that fails changes nothing. So over
any run of such calls, whatever the store refuses, objects stay and their metadata grow
(`ObjectMeta.GrowsInto`).
-/

namespace Reconciliation

namespace ObjectMeta

/-- The metadata without identity, labels, annotations and references to owners. -/
def bookkeeping (metadata : ObjectMeta) : ObjectMeta :=
  { metadata with
    name := none, namespaceName := none, labels := none, annotations := none, ownerReferences := none }

/-- The references to others than the owners of some uids. -/
def referencesBeyond (metadata : ObjectMeta) (uids : List String) : List OwnerReference :=
  metadata.references.filter (·.uid ∉ uids)

/-- Metadata that a call for wanted ones on behalf of an owner leaves where there were some before, or none. -/
structure Joins (owner : Owner) (wanted : ObjectMeta) (before : Option ObjectMeta) (after : ObjectMeta) :
    Prop where
  labels : ∀ key, Merge.lookup? after.labels key =
    (Merge.lookup? wanted.labels key).or (before.bind fun existing => Merge.lookup? existing.labels key)
  annotations : ∀ key, Merge.lookup? after.annotations key =
    (Merge.lookup? wanted.annotations key).or
      (before.bind fun existing => Merge.lookup? existing.annotations key)
  references : ∀ existing, before = some existing →
    after.referencesBeyond [owner.uid] = existing.referencesBeyond [owner.uid]
  bookkeeping : ∀ existing, before = some existing → after.bookkeeping = existing.bookkeeping

/-- Metadata of the same object later on, when nobody but the owners of some uids has worked on it. -/
structure GrowsInto (uids : List String) (before after : ObjectMeta) : Prop where
  labels : ∀ key, (Merge.lookup? before.labels key).isSome → (Merge.lookup? after.labels key).isSome
  annotations : ∀ key,
    (Merge.lookup? before.annotations key).isSome → (Merge.lookup? after.annotations key).isSome
  references : after.referencesBeyond uids = before.referencesBeyond uids
  bookkeeping : after.bookkeeping = before.bookkeeping

variable {uids : List String} {owner : Owner} {wanted before between after : ObjectMeta}

/-- Who is not among many is not the one of them. -/
theorem referencesBeyond_of_mem (metadata : ObjectMeta) {uid : String} (within : uid ∈ uids) :
    metadata.referencesBeyond uids = (metadata.referencesBeyond [uid]).filter (·.uid ∉ uids) := by
  rw [referencesBeyond, referencesBeyond, List.filter_filter]
  apply List.filter_congr
  intro reference _
  by_cases listed : reference.uid ∈ uids
  · simp [listed]
  · have apart : reference.uid ≠ uid := by
      rintro rfl
      exact listed within
    simp [listed, apart]

namespace GrowsInto

theorem refl (uids : List String) (metadata : ObjectMeta) : GrowsInto uids metadata metadata :=
  ⟨fun _ present => present, fun _ present => present, rfl, rfl⟩

theorem trans (first : GrowsInto uids before between) (last : GrowsInto uids between after) :
    GrowsInto uids before after where
  labels key present := last.labels key (first.labels key present)
  annotations key present := last.annotations key (first.annotations key present)
  references := last.references.trans first.references
  bookkeeping := last.bookkeeping.trans first.bookkeeping

end GrowsInto

/-- Whoever joins existing metadata lets them grow. -/
theorem Joins.growsInto (joins : Joins owner wanted (some before) after) (within : owner.uid ∈ uids) :
    GrowsInto uids before after where
  labels key present := by rw [joins.labels, Option.isSome_or, Option.bind_some, present, Bool.or_true]
  annotations key present := by
    rw [joins.annotations, Option.isSome_or, Option.bind_some, present, Bool.or_true]
  references := by
    rw [referencesBeyond_of_mem after within, referencesBeyond_of_mem before within,
      joins.references before rfl]
  bookkeeping := joins.bookkeeping before rfl

/-- Metadata that follow wanted ones without a change have joined them already. -/
theorem joins_of_follow_unchanged (owner : Owner) (unchanged : (before.follow wanted).changed = false) :
    Joins owner wanted (some before) before := by
  obtain ⟨-, -, labels, annotations⟩ := changed_follow_eq_false_iff.mp unchanged
  refine ⟨fun key => ?_, fun key => ?_, ?_, ?_⟩
  · have merged := Merge.lookup_merge before.labels wanted.labels key
    rwa [Merge.merge_eq_keep_of_unchanged labels] at merged
  · have merged := Merge.lookup_merge before.annotations wanted.annotations key
    rwa [Merge.merge_eq_keep_of_unchanged annotations] at merged
  · rintro _ ⟨⟩
    rfl
  · rintro _ ⟨⟩
    rfl

end ObjectMeta

/-- Setting the reference of an owner is no matter of the others. -/
theorem Owner.filter_setReference_of_ne (owner : Owner) (references : List OwnerReference) :
    (owner.setReference references).value.filter (·.uid ∉ [owner.uid]) =
      references.filter (·.uid ∉ [owner.uid]) := by
  simp only [setReference]
  split
  · rfl
  · have same : owner.reference.uid = owner.uid := rfl
    simp [List.filter_append, List.filter_filter, same, bne, beq_eq_decide]

/-- Adopting an object is no matter of its other references. -/
theorem Owner.referencesBeyond_adopt {kind : Kind} (owner : Owner) (object : kind.Object) :
    (owner.adopt kind object).object.metadata.referencesBeyond [owner.uid] =
      object.metadata.referencesBeyond [owner.uid] := by
  cases found : object.metadata.references.find? owner.isForeignController with
  | some foreign => rw [adopt_of_foreign found, Mutation.object_refused]
  | none =>
    rw [adopt_of_free (List.find?_eq_none.mp found)]
    exact owner.filter_setReference_of_ne object.metadata.references

/-- A mutator is no matter of bookkeeping. -/
theorem ObjectMeta.AnnotatedFrom.bookkeeping {desired before after : ObjectMeta}
    (annotated : AnnotatedFrom desired before after) : after.bookkeeping = before.bookkeeping := by
  rcases annotated with rfl | rfl <;> rfl

theorem ObjectMeta.AnnotatedFrom.referencesBeyond {desired before after : ObjectMeta}
    (annotated : AnnotatedFrom desired before after) (uids : List String) :
    after.referencesBeyond uids = before.referencesBeyond uids := by
  rcases annotated with rfl | rfl <;> rfl

namespace Reconcile

variable {kind : Kind} {owner : Owner} {mutator : Mutator kind} {wanted : kind.Object}
  {existing : Option kind.Object}

/-- An existing object that has followed, been adopted and been mutated has joined what is wanted. -/
theorem joins_of_mutated (owner : Owner) (mutator : Mutator kind) (wanted existing : kind.Object) :
    ObjectMeta.Joins owner wanted.metadata (some existing.metadata)
      (mutator.mutate (owner.adopt kind (followed wanted existing)).object wanted).object.metadata := by
  have mutated := mutator.annotatedFrom (owner.adopt kind (followed wanted existing)).object wanted
  have others := owner.referencesBeyond_adopt (followed wanted existing)
  obtain ⟨references, adopted⟩ := owner.object_adopt (followed wanted existing)
  refine ⟨fun key => ?_, fun key => ?_, ?_, ?_⟩
  · rw [mutated.labels, adopted]
    exact Merge.lookup_merge existing.metadata.labels wanted.metadata.labels key
  · have merged := Merge.lookup_merge existing.metadata.annotations wanted.metadata.annotations key
    rcases mutated with same | again
    · rw [same, adopted]
      exact merged
    · rw [again, adopted]
      -- to merge the wanted annotations once more makes no difference
      change Merge.lookup? (Merge.merge (Merge.merge existing.metadata.annotations
        wanted.metadata.annotations).value wanted.metadata.annotations).value key = _
      rw [Merge.merge_merge]
      exact merged
  · rintro _ ⟨⟩
    exact (mutated.referencesBeyond _).trans others
  · rintro _ ⟨⟩
    rw [mutated.bookkeeping, adopted]
    rfl

/-- A wanted object that has been adopted joins nothing but itself. -/
theorem joins_of_adopted (owner : Owner) (wanted : kind.Object) :
    ObjectMeta.Joins owner wanted.metadata none (owner.adopt kind wanted).object.metadata := by
  obtain ⟨references, adopted⟩ := owner.object_adopt wanted
  rw [adopted]
  refine ⟨fun key => ?_, fun key => ?_, ?_, ?_⟩
  · exact (Option.or_none).symm
  · exact (Option.or_none).symm
  · rintro _ ⟨⟩
  · rintro _ ⟨⟩

/-- What is written of an object that is wanted has joined what there was, and there is no deletion. -/
theorem joins_of_write (untagged : wanted.metadata.isTaggedForDeletion = false) {change : Write}
    {outcome : Outcome} (decided : verdict owner mutator.mutate wanted existing = .write change outcome) :
    change.verb ≠ .delete ∧
      ObjectMeta.Joins owner wanted.metadata (existing.map (·.metadata)) change.resource.object.metadata := by
  cases existing with
  | none =>
    rw [verdict_none_of_untagged untagged] at decided
    split at decided
    · cases decided
    · cases decided
      exact ⟨Verb.noConfusion, joins_of_adopted owner wanted⟩
  | some object =>
    rw [verdict_some_of_untagged untagged] at decided
    obtain ⟨-, rfl⟩ := write_of_verdictOnExisting decided
    exact ⟨Verb.noConfusion, joins_of_mutated owner mutator wanted object⟩

/-- Where a call for a wanted object finds nothing to do, the object has joined it already. -/
theorem joins_of_finish (untagged : wanted.metadata.isTaggedForDeletion = false) {outcome : Outcome}
    (decided : verdict owner mutator.mutate wanted existing = .finish (.ok outcome)) :
    ∃ object, existing = some object ∧
      ObjectMeta.Joins owner wanted.metadata (some object.metadata) object.metadata := by
  cases existing with
  | none =>
    rw [verdict_none_of_untagged untagged] at decided
    split at decided <;> cases decided
  | some object =>
    refine ⟨object, rfl, ?_⟩
    rw [verdict_some_of_untagged untagged, verdictOnExisting] at decided
    split at decided
    · cases decided
    · cases decided
    · split at decided
      · cases decided
      · next unchanged =>
        simp only [Bool.or_eq_true, not_or, Bool.not_eq_true] at unchanged
        exact ObjectMeta.joins_of_follow_unchanged owner unchanged.1.1

end Reconcile

/-- A call that any owner makes for any object, with a mutator of the library. -/
structure Errand where
  {kind : Kind}
  owner : Owner
  mutator : Mutator kind
  desired : kind.Object

namespace Errand

/-- The call. -/
def program (errand : Errand) : Program Cluster (Except Failure Outcome) :=
  reconcile errand.owner errand.mutator.mutate errand.desired

/-- The run of the call on a cluster in memory. -/
def run (errand : Errand) (cluster : MemoryCluster) : Run Cluster MemoryCluster (Except Failure Outcome) :=
  errand.program.run MemoryCluster.handler cluster

/-- Whether the call asks for a deletion. -/
def isTagged (errand : Errand) : Bool := errand.desired.metadata.isTaggedForDeletion

/-- The desired object, in the namespace of the owner. -/
def wanted (errand : Errand) : errand.kind.Object := errand.desired.inNamespace errand.owner.namespaceName

/-- What the call decides once it knows whether there is an object. -/
def verdict (errand : Errand) (existing : Option errand.kind.Object) : Verdict :=
  Reconcile.verdict errand.owner errand.mutator.mutate errand.wanted existing

/-- The namespace of the owner has no part in what is joined. -/
theorem joins_desired (errand : Errand) {before : Option ObjectMeta} {after : ObjectMeta}
    (joins : ObjectMeta.Joins errand.owner errand.wanted.metadata before after) :
    ObjectMeta.Joins errand.owner errand.desired.metadata before after :=
  ⟨joins.labels, joins.annotations, joins.references, joins.bookkeeping⟩

/-- A call for a wanted object fails without an effect, or the object is at its place afterwards, has joined
what there was, and nothing else has changed. -/
theorem run_cases (errand : Errand) (untagged : errand.isTagged = false) (cluster : MemoryCluster) :
    let run := errand.run cluster
    let before := cluster.store.inventory
    let after := run.state.store.inventory
    ((∃ failure, run.result = .error failure) ∧ after = before) ∨
      ∃ name stored, errand.desired.metadata.name = some name ∧
        let place : Place := ⟨errand.owner.namespaceName, name⟩
        after.get? errand.kind place = some stored ∧
          ObjectMeta.Joins errand.owner errand.desired.metadata
            ((before.get? errand.kind place).map (·.metadata)) stored.metadata ∧
          ∀ kind elsewhere, (errand.kind, place) ≠ (kind, elsewhere) →
            after.get? kind elsewhere = before.get? kind elsewhere := by
  intro run before after
  rcases run_reconcile_cases errand.owner errand.mutator.mutate errand.desired cluster with
    failed | ⟨name, named, result, carried⟩
  · exact .inl failed
  cases ended : run.result with
  | error failure => exact .inl ⟨⟨failure, rfl⟩, inventory_run_reconcile_of_error ended⟩
  | ok outcome =>
    right
    let decision := errand.verdict (before.get? errand.kind ⟨errand.owner.namespaceName, name⟩)
    have success : (decision.carryOut cluster.store).1 = .ok outcome := result.symm.trans ended
    have left : after = (decision.carryOut cluster.store).2.inventory :=
      congrArg MemoryStore.inventory carried
    have wanted : errand.wanted.metadata.isTaggedForDeletion = false := untagged
    have called : errand.wanted.metadata.name = some name := named
    rw [left]
    cases decided : decision with
    | finish ending =>
      rw [decided] at success
      obtain rfl : ending = .ok outcome := success
      obtain ⟨stored, found, joins⟩ := Reconcile.joins_of_finish wanted decided
      refine ⟨name, stored, named, found, ?_, fun _ _ _ => rfl⟩
      rw [found]
      exact errand.joins_desired joins
    | write change done =>
      rw [decided] at success
      obtain ⟨kept, joins⟩ := Reconcile.joins_of_write wanted decided
      have here := Reconcile.place_of_untagged errand.mutator.keepsPlace rfl called wanted decided
      obtain ⟨-, written⟩ := Verdict.write_of_carryOut_ok success
      obtain ⟨applied, same⟩ := MemoryStore.write_of_ok written
      have stored := MemoryStore.get?_apply_of_ok kept applied
      have others : ∀ kind elsewhere, (change.resource.kind, change.resource.place) ≠ (kind, elsewhere) →
          (MemoryStore.apply cluster.store.inventory change).2.get? kind elsewhere =
            before.get? kind elsewhere := fun _ _ => MemoryStore.get?_apply_of_ne _ change
      rw [Verdict.carryOut, same]
      generalize change.resource = resource at joins here stored others
      obtain ⟨kind, object⟩ := resource
      obtain ⟨rfl, there⟩ := Prod.mk.inj here
      rw [there] at stored others
      exact ⟨name, object, named, stored, errand.joins_desired joins, others⟩

/-- One call for a wanted object lets every object stay and grow. -/
theorem grows_of_run (errand : Errand) (untagged : errand.isTagged = false) {cluster : MemoryCluster}
    {uids : List String} (within : errand.owner.uid ∈ uids) {kind : Kind} {place : Place}
    {object : kind.Object} (stored : cluster.store.inventory.get? kind place = some object) :
    ∃ grown, (errand.run cluster).state.store.inventory.get? kind place = some grown ∧
      object.metadata.GrowsInto uids grown.metadata := by
  rcases errand.run_cases untagged cluster with ⟨-, same⟩ | ⟨name, left, -, found, joins, others⟩
  · rw [same]
    exact ⟨object, stored, .refl uids _⟩
  · by_cases here : (errand.kind, (⟨errand.owner.namespaceName, name⟩ : Place)) = (kind, place)
    · cases here
      rw [stored] at joins
      exact ⟨left, found, joins.growsInto within⟩
    · rw [others kind place here]
      exact ⟨object, stored, .refl uids _⟩

end Errand

namespace MemoryCluster

/-- The cluster after some calls, one after the other. -/
def performed (cluster : MemoryCluster) (errands : List Errand) : MemoryCluster :=
  errands.foldl (fun reached errand => (errand.run reached).state) cluster

@[simp] theorem performed_cons (cluster : MemoryCluster) (errand : Errand) (rest : List Errand) :
    cluster.performed (errand :: rest) = (errand.run cluster).state.performed rest := rfl

@[simp] theorem performed_append (cluster : MemoryCluster) (earlier later : List Errand) :
    cluster.performed (earlier ++ later) = (cluster.performed earlier).performed later := List.foldl_append ..

/-- Any number of calls for wanted objects let every object stay and grow. -/
theorem grows_of_performed {uids : List String} (errands : List Errand)
    (untagged : ∀ errand ∈ errands, errand.isTagged = false)
    (within : ∀ errand ∈ errands, errand.owner.uid ∈ uids) {cluster : MemoryCluster} {kind : Kind}
    {place : Place} {object : kind.Object}
    (stored : cluster.store.inventory.get? kind place = some object) :
    ∃ grown, (cluster.performed errands).store.inventory.get? kind place = some grown ∧
      object.metadata.GrowsInto uids grown.metadata := by
  induction errands generalizing cluster object with
  | nil => exact ⟨object, stored, .refl uids _⟩
  | cons errand rest ih =>
    obtain ⟨this, others⟩ := List.forall_mem_cons.mp untagged
    obtain ⟨listed, all⟩ := List.forall_mem_cons.mp within
    obtain ⟨between, found, first⟩ := errand.grows_of_run this listed stored
    obtain ⟨grown, left, last⟩ := ih others all found
    rw [performed_cons]
    exact ⟨grown, left, first.trans last⟩

end MemoryCluster

/-- In a run of calls for wanted objects, whatever the store refuses, an object that is stored at some point
is stored ever after. It keeps its label keys, its annotation keys, the references to others than the owners
of the calls in between, and all its bookkeeping. Where a call succeeds, the object that it is for has
the wanted labels and annotations, and under all other keys what there was before the call. -/
theorem metadata_only_grow (cluster : MemoryCluster) (errands : List Errand)
    (untagged : ∀ errand ∈ errands, errand.isTagged = false) :
    (∀ earlier between later, errands = earlier ++ between ++ later →
      ∀ kind place object, (cluster.performed earlier).store.inventory.get? kind place = some object →
        ∃ grown, (cluster.performed (earlier ++ between)).store.inventory.get? kind place = some grown ∧
          object.metadata.GrowsInto (between.map (·.owner.uid)) grown.metadata) ∧
    ∀ earlier errand later, errands = earlier ++ errand :: later →
      let before := (cluster.performed earlier).store.inventory
      let run := errand.run (cluster.performed earlier)
      ∀ outcome, run.result = .ok outcome →
        ∃ name stored, errand.desired.metadata.name = some name ∧
          let place : Place := ⟨errand.owner.namespaceName, name⟩
          run.state.store.inventory.get? errand.kind place = some stored ∧
            ∀ key,
              Merge.lookup? stored.metadata.labels key =
                (Merge.lookup? errand.desired.metadata.labels key).or
                  ((before.get? errand.kind place).bind fun object => Merge.lookup? object.metadata.labels key) ∧
              Merge.lookup? stored.metadata.annotations key =
                (Merge.lookup? errand.desired.metadata.annotations key).or
                  ((before.get? errand.kind place).bind fun object =>
                    Merge.lookup? object.metadata.annotations key) := by
  refine ⟨?_, ?_⟩
  · rintro earlier between later rfl kind place object stored
    rw [MemoryCluster.performed_append]
    refine MemoryCluster.grows_of_performed between (fun errand within => ?_) (fun errand within => ?_) stored
    · exact untagged errand (by simp [within])
    · exact List.mem_map_of_mem within
  · rintro earlier errand later rfl before run outcome success
    rcases errand.run_cases (untagged errand (by simp)) (cluster.performed earlier) with
      ⟨⟨failure, failed⟩, -⟩ | ⟨name, stored, named, found, joins, -⟩
    · cases success.symm.trans failed
    · refine ⟨name, stored, named, found, fun key => ⟨?_, ?_⟩⟩
      · exact (joins.labels key).trans (by rw [Option.bind_map]; rfl)
      · exact (joins.annotations key).trans (by rw [Option.bind_map]; rfl)

/-- An update is refused and made again. What others have written into the metadata of the deployment is still
there afterwards, next to what is wanted. -/
theorem metadata_only_grow_over_refusal :
    let shop : Owner :=
      ⟨"prod", { apiVersion := "v1", controller := some true, kind := "AppStack", name := "shop", uid := "1" }⟩
    let stranger : OwnerReference := { apiVersion := "v1", kind := "Backup", name := "nightly", uid := "2" }
    let stored : Kind.deployment.Object :=
      ⟨{ name := some "web"
         namespaceName := some "prod"
         annotations := some (.ofList [("note", "old"), ("team", "web")])
         finalizers := some ["backup"]
         resourceVersion := some "7"
         ownerReferences := some [stranger] }, {}⟩
    let errand : Errand :=
      ⟨shop, .chain [@Mutator.rule .deployment .annotations, @Mutator.rule .deployment .replicas],
        (⟨{ name := some "web", annotations := some (.ofList [("note", "new")]) }, {}⟩ :
          Kind.deployment.Object)⟩
    let conflict := ApiStatus.ofReason 409 "Conflict"
    let cluster : MemoryCluster :=
      ⟨(MemoryStore.empty.seed ⟨.deployment, stored⟩).refuse .update conflict, ⟨[], true⟩⟩
    (errand.run cluster).result = .error (.refused conflict) ∧
      (errand.run (cluster.performed [errand])).result = .ok .updated ∧
      (∃ grown, (cluster.performed [errand, errand]).store.inventory.get? .deployment ⟨"prod", "web"⟩ =
          some grown ∧ stored.metadata.GrowsInto ["1", "1"] grown.metadata) ∧
      ∃ left, (errand.run (cluster.performed [errand])).state.store.inventory.get? .deployment
          ⟨"prod", "web"⟩ = some left ∧
        Merge.lookup? left.metadata.annotations "note" = some "new" ∧
        Merge.lookup? left.metadata.annotations "team" = some "web" := by
  intro shop stranger stored errand conflict cluster
  have updated : (errand.run (cluster.performed [errand])).result = .ok .updated := by decide +kernel
  have start : cluster.store.inventory.get? .deployment ⟨"prod", "web"⟩ = some stored := by decide +kernel
  have untagged : errand.isTagged = false := by decide +kernel
  obtain ⟨growth, values⟩ := metadata_only_grow cluster [errand, errand] (by simp [untagged])
  obtain ⟨name, left, named, found, looked⟩ := values [errand] errand [] rfl .updated updated
  obtain rfl : name = "web" := (Option.some.inj named).symm
  refine ⟨by decide +kernel, updated, ?_, left, found, ?_, ?_⟩
  · exact growth [] [errand, errand] [] rfl .deployment ⟨"prod", "web"⟩ stored start
  · exact (looked "note").2.trans (by decide +kernel)
  · exact (looked "team").2.trans (by decide +kernel)

end Reconciliation
