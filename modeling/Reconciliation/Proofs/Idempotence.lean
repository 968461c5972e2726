import Reconciliation.Proofs.FourWays

/-! # Calling twice

A call on an existing object that succeeds leaves nothing to do for a second call with the same desired
object. The second call goes through the same three steps, and each of them has to find its own work
undisturbed by the steps after it: what was merged must survive the adoption and the mutator, and the
owner reference must survive the mutator.
-/

namespace Reconciliation

/-- The contract of mutators: after a success, mutating once more changes nothing and reports no change. -/
def Mutate.Settles {α : Type} (mutate : Mutate α) : Prop :=
  ∀ existing desired changed, (mutate existing desired).outcome = .ok changed →
    mutate (mutate existing desired).object desired = .done (.keep (mutate existing desired).object)

/-- Name, namespace, labels and owner references are as before, and no desired annotation is undone. -/
structure ObjectMeta.Undisturbed (desired before after : ObjectMeta) : Prop where
  name : after.name = before.name
  namespaceName : after.namespaceName = before.namespaceName
  labels : after.labels = before.labels
  ownerReferences : after.ownerReferences = before.ownerReferences
  annotations : ∀ key value, Merge.lookup? desired.annotations key = some value →
    Merge.lookup? before.annotations key = some value → Merge.lookup? after.annotations key = some value

/-- A mutator that, where it succeeds, leaves metadata undisturbed. -/
def Mutate.LeavesMetadata {kind : Kind} (mutate : Mutate kind.Object) : Prop :=
  ∀ existing desired changed, (mutate existing desired).outcome = .ok changed →
    desired.metadata.Undisturbed existing.metadata (mutate existing desired).object.metadata

theorem ObjectMeta.AnnotatedFrom.undisturbed {desired before after : ObjectMeta}
    (annotated : AnnotatedFrom desired before after) : desired.Undisturbed before after where
  name := annotated.name
  namespaceName := annotated.namespaceName
  labels := annotated.labels
  ownerReferences := annotated.ownerReferences
  annotations _ _ := annotated.annotations

/-- The mutators of the library leave metadata undisturbed. -/
theorem Mutator.leavesMetadata {kind : Kind} (mutator : Mutator kind) : mutator.mutate.LeavesMetadata :=
  fun existing desired _ _ => (mutator.annotatedFrom existing desired).undisturbed

/-- Metadata that have followed desired ones, and have lost nothing of it since, have nothing to follow. -/
theorem ObjectMeta.follow_of_followed {existing desired after : ObjectMeta} (name : after.name = desired.name)
    (namespaceName : after.namespaceName = desired.namespaceName)
    (labels : after.labels = (Merge.merge existing.labels desired.labels).value)
    (annotations : ∀ key value, Merge.lookup? desired.annotations key = some value →
      Merge.lookup? after.annotations key = some value) :
    after.follow desired = .keep after := by
  refine follow_eq_keep_iff.mpr ⟨name, namespaceName, ?_, Merge.merge_eq_keep_iff.mpr annotations⟩
  rw [labels, Merge.merge_merge]

namespace Reconcile

variable {kind : Kind} {owner : Owner} {mutate : Mutate kind.Object} {wanted existing : kind.Object}

/-- Where only the mutator may find something to do, its report decides. -/
theorem verdictOnExisting_of_adopted
    (follows : existing.metadata.follow wanted.metadata = .keep existing.metadata)
    (adopted : owner.adopt kind existing = .done (.keep existing)) :
    verdictOnExisting owner mutate wanted existing =
      match (mutate existing wanted).outcome with
      | .error failure => .finish (.error failure)
      | .ok true => .write (.update ⟨kind, (mutate existing wanted).object⟩) .updated
      | .ok false => .finish (.ok .unchanged) := by
  have same : followed wanted existing = existing := by rw [followed, follows, Edit.value_keep]
  rw [verdictOnExisting, same, adopted, Mutation.object_done, Mutation.outcome_done, Edit.value_keep, follows]
  cases (mutate existing wanted).outcome with
  | error failure => rfl
  | ok changed => cases changed <;> rfl

/-- Where none of the three steps finds anything to do, the call ends without a write. -/
theorem verdictOnExisting_of_settled
    (follows : existing.metadata.follow wanted.metadata = .keep existing.metadata)
    (adopted : owner.adopt kind existing = .done (.keep existing))
    (mutated : (mutate existing wanted).outcome = .ok false) :
    verdictOnExisting owner mutate wanted existing = .finish (.ok .unchanged) := by
  rw [verdictOnExisting_of_adopted follows adopted, mutated]

/-- A decision to write an existing object back comes with the success of all three steps. -/
theorem succeeds_of_update {change : Write} {outcome : Outcome}
    (decided : verdictOnExisting owner mutate wanted existing = .write change outcome) :
    ∃ owned changed, (owner.adopt kind (followed wanted existing)).outcome = .ok owned ∧
      (mutate (owner.adopt kind (followed wanted existing)).object wanted).outcome = .ok changed := by
  rw [verdictOnExisting] at decided
  split at decided
  · cases decided
  · cases decided
  · next adopted mutated => exact ⟨_, _, adopted, mutated⟩

/-- What has gone through the three steps goes through them unchanged if the mutator reports no change. -/
theorem verdictOnExisting_of_mutated (leaves : mutate.LeavesMetadata)
    {owned changed : Bool} (adopted : (owner.adopt kind (followed wanted existing)).outcome = .ok owned)
    (mutated : (mutate (owner.adopt kind (followed wanted existing)).object wanted).outcome = .ok changed)
    (again : (mutate (mutate (owner.adopt kind (followed wanted existing)).object wanted).object wanted).outcome =
      .ok false) :
    verdictOnExisting owner mutate wanted
        (mutate (owner.adopt kind (followed wanted existing)).object wanted).object =
      .finish (.ok .unchanged) := by
  have undisturbed := leaves _ wanted changed mutated
  apply verdictOnExisting_of_settled
  · obtain ⟨references, own⟩ := owner.object_adopt (followed wanted existing)
    refine @ObjectMeta.follow_of_followed existing.metadata wanted.metadata _ ?_ ?_ ?_ ?_
    · rw [undisturbed.name, own]
      rfl
    · rw [undisturbed.namespaceName, own]
      rfl
    · rw [undisturbed.labels, own]
      rfl
    · intro key value desired
      apply undisturbed.annotations key value desired
      have merged := Merge.lookup_merge existing.metadata.annotations wanted.metadata.annotations key
      rw [desired] at merged
      rw [own]
      exact merged
  · exact Owner.adopt_of_adopted adopted undisturbed.ownerReferences
  · exact again

/-- What has gone through the three steps is at the place of the wanted object. -/
theorem place_of_mutated (leaves : mutate.LeavesMetadata) {namespaceName name : String}
    (within : wanted.metadata.namespaceName = some namespaceName) (named : wanted.metadata.name = some name)
    {changed : Bool}
    (mutated : (mutate (owner.adopt kind (followed wanted existing)).object wanted).outcome = .ok changed) :
    (mutate (owner.adopt kind (followed wanted existing)).object wanted).object.metadata.place =
      ⟨namespaceName, name⟩ := by
  have undisturbed := leaves _ wanted changed mutated
  obtain ⟨references, own⟩ := owner.object_adopt (followed wanted existing)
  apply ObjectMeta.place_of_named
  · rw [undisturbed.namespaceName, own]
    exact within
  · rw [undisturbed.name, own]
    exact named

/-- A verdict on an existing object that ends well without a write says that there is nothing to do. -/
theorem unchanged_of_finish {outcome : Outcome}
    (decided : verdictOnExisting owner mutate wanted existing = .finish (.ok outcome)) :
    outcome = .unchanged := by
  rw [verdictOnExisting] at decided
  split at decided
  · cases decided
  · cases decided
  · split at decided
    · cases decided
    · cases decided
      rfl

/-- After a verdict on an existing object has taken effect, the next one finds nothing to do. -/
theorem verdict_after_effect (settles : mutate.Settles) (leaves : mutate.LeavesMetadata)
    {namespaceName name : String} (within : wanted.metadata.namespaceName = some namespaceName)
    (named : wanted.metadata.name = some name) {inventory after : Inventory} (filed : inventory.Filed)
    (found : inventory.get? kind ⟨namespaceName, name⟩ = some existing) {outcome : Outcome}
    (effect : (verdict owner mutate wanted (some existing)).effect inventory = (.ok outcome, after)) :
    verdict owner mutate wanted (after.get? kind ⟨namespaceName, name⟩) = .finish (.ok .unchanged) := by
  cases tagged : wanted.metadata.isTaggedForDeletion with
  | true =>
    rw [verdict_some_of_tagged tagged] at effect
    cases effect
    have gone : (inventory.remove kind existing.metadata.place).get? kind ⟨namespaceName, name⟩ = none := by
      rw [filed kind _ existing found]
      exact Inventory.get?_remove_same _ _ _
    change verdict owner mutate wanted ((inventory.remove kind existing.metadata.place).get? kind _) = _
    rw [gone]
    exact verdict_none_of_tagged tagged
  | false =>
    rw [verdict_some_of_untagged tagged] at effect
    cases decided : verdictOnExisting owner mutate wanted existing with
    | finish result =>
      rw [decided] at effect
      cases effect
      rw [found, verdict_some_of_untagged tagged, decided, unchanged_of_finish decided]
    | write change done =>
      rw [decided] at effect
      obtain ⟨-, applied⟩ := Verdict.apply_of_effect_ok (congrArg Prod.fst effect)
      obtain ⟨owned, changed, adopted, mutated⟩ := succeeds_of_update decided
      obtain ⟨-, rfl⟩ := write_of_verdictOnExisting decided
      have stored := MemoryStore.get?_apply_of_ok Verb.noConfusion applied
      simp only [Write.resource, Resource.place, place_of_mutated leaves within named mutated] at stored
      obtain rfl : _ = after := congrArg Prod.snd effect
      rw [Verdict.effect, stored, verdict_some_of_untagged tagged]
      have again := congrArg Mutation.outcome (settles _ wanted changed mutated)
      exact verdictOnExisting_of_mutated leaves adopted mutated again

end Reconcile

/-- If a call on an existing object succeeds, a second one for the same desired object only reads: it
answers that nothing has changed, and changes nothing. -/
theorem reconcile_idempotent {kind : Kind} (owner : Owner) {mutate : Mutate kind.Object}
    (settles : mutate.Settles) (leaves : mutate.LeavesMetadata) {desired : kind.Object} {name : String}
    (named : desired.metadata.name = some name) {inventory : Inventory} (filed : inventory.Filed)
    (present : inventory.contains kind ⟨owner.namespaceName, name⟩ = true) (probe : ScriptedProbe)
    {outcome : Outcome}
    (success : ((reconcile owner mutate desired).run MemoryCluster.handler (.calm inventory probe)).result =
      .ok outcome) :
    let first := (reconcile owner mutate desired).run MemoryCluster.handler (.calm inventory probe)
    let second := (reconcile owner mutate desired).run MemoryCluster.handler first.state
    second.result = .ok .unchanged ∧ second.requests = [.get kind owner.namespaceName name] ∧
      second.state = first.state := by
  intro first second
  obtain ⟨result, -, -⟩ := run_reconcile_calm owner mutate named inventory probe
  have effective : ∃ after, (Reconcile.verdict owner mutate (desired.inNamespace owner.namespaceName)
      (inventory.get? kind ⟨owner.namespaceName, name⟩)).effect inventory = (.ok outcome, after) :=
    ⟨_, Prod.ext (result.symm.trans success) rfl⟩
  have there : ∃ existing, inventory.get? kind ⟨owner.namespaceName, name⟩ = some existing := by
    rw [Inventory.contains_eq_isSome] at present
    exact Option.isSome_iff_exists.mp present
  obtain ⟨after, effect⟩ := effective
  obtain ⟨existing, found⟩ := there
  refine run_reconcile_settled owner mutate named effect ?_ probe
  rw [found] at effect
  have called : (desired.inNamespace owner.namespaceName).metadata.name = some name := named
  exact Reconcile.verdict_after_effect settles leaves rfl called filed found effect

/-- A config map in use is updated and taken over, and the second call finds it in order. -/
theorem reconcile_idempotent_of_config_map :
    let reference : OwnerReference :=
      { apiVersion := "v1", controller := some true, kind := "AppStack", name := "shop", uid := "1" }
    let owner : Owner := ⟨"prod", reference⟩
    let mutate := (@Mutator.rule .configMap .data).mutate
    let stored : Kind.configMap.Object :=
      ⟨{ name := some "settings", namespaceName := some "prod" },
        { data := some (.ofList [("mode", "safe")]) }⟩
    let desired : Kind.configMap.Object :=
      ⟨{ name := some "settings", labels := some (.ofList [("app", "shop")]) },
        { data := some (.ofList [("mode", "fast")]) }⟩
    let inventory := Inventory.empty.put stored.metadata.place ⟨.configMap, stored⟩
    let first := (reconcile owner mutate desired).run MemoryCluster.handler (.calm inventory ⟨[], true⟩)
    let second := (reconcile owner mutate desired).run MemoryCluster.handler first.state
    first.result = .ok .updated ∧ second.result = .ok .unchanged ∧ second.state = first.state := by
  intro reference owner mutate stored desired inventory first second
  have settles : mutate.Settles := by
    intro existing desired changed _
    simp only [mutate, Mutator.mutate, Kind.applyRule, ConfigMap.Rule.mutate, Mutate.ofContentEdit,
      Mutate.ofEdit, ConfigMap.followData, Mutation.object_done, Edit.value_map, Edit.value_replace, Object.withContent,
      Edit.replace_self, Edit.map_keep]
  have updated : first.result = .ok .updated := by decide +kernel
  obtain ⟨unchanged, -, same⟩ := reconcile_idempotent owner settles (Mutator.leavesMetadata _) rfl
    (Inventory.filed_empty.put ⟨.configMap, stored⟩) (by decide) ⟨[], true⟩ updated
  exact ⟨updated, unchanged, same⟩

end Reconciliation
