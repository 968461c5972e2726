import Reconciliation.Proofs.Asking
import Reconciliation.Proofs.FourWays

/-! # The tag for deletion comes first

A call whose desired object is tagged for deletion reads one place and deletes what it finds there. That is
all: the whole call is `Reconcile.discard`, which is told the kind, the namespace of the owner, the policy
and the name. So two such calls that agree on these four cannot be told apart, by whatever answers their
requests, however different their contents, owners and mutators are.
-/

namespace Reconciliation

/-- What has been tagged for deletion is, with or without a policy. -/
theorem ObjectMeta.isTaggedForDeletion_tagForDeletion (metadata : ObjectMeta) (policy : Option PropagationPolicy) :
    (metadata.tagForDeletion policy).isTaggedForDeletion = true := by
  have apart : DeletionTag.policyAnnotation ≠ DeletionTag.annotation := by decide
  cases policy <;> simp [tagForDeletion, annotate, isTaggedForDeletion, annotation?, SortedMap.get?_insert_of_ne, apart]

namespace Reconcile

variable {kind : Kind}

/-- Delete the object of a name in a namespace if it is there. There has to be a name. -/
def discard (kind : Kind) (namespaceName : String) (policy : Option PropagationPolicy) :
    Option String → Program Cluster (Except Failure Outcome)
  | none => .done (.error (.invalidObject kind.name "desired object has no name"))
  | some name =>
      .ask (.get kind namespaceName name) fun
        | .error failure => .done (.error failure)
        | .ok none => .done (.ok .unchanged)
        | .ok (some existing) => commit (.delete ⟨kind, existing⟩ policy) .deleted

/-- A call for an object that is tagged for deletion discards it. -/
theorem reconcile_of_tagged (owner : Owner) (mutate : Mutate kind.Object) {desired : kind.Object}
    (tagged : desired.metadata.isTaggedForDeletion = true) :
    reconcile owner mutate desired =
      discard kind owner.namespaceName desired.metadata.deletionPolicy? desired.metadata.name := by
  -- the namespace that the desired object is put into has no part in the tag or the policy
  have within : (desired.inNamespace owner.namespaceName).metadata.isTaggedForDeletion = true := tagged
  cases named : desired.metadata.name with
  | none => simp only [reconcile, named, discard]
  | some name =>
    simp only [reconcile, named, discard]
    congr 1
    funext answer
    cases answer with
    | error failure => rfl
    | ok existing =>
      change settle owner mutate (desired.inNamespace owner.namespaceName) existing = _
      rw [settle_eq_program]
      cases existing with
      | none =>
        rw [verdict_none_of_tagged within]
        rfl
      | some existing =>
        rw [verdict_some_of_tagged within]
        rfl

/-- Discarding takes no requests but to read the place and to delete an object of the kind. -/
theorem discard_asks (kind : Kind) (namespaceName : String) (policy : Option PropagationPolicy)
    (name : Option String) :
    (discard kind namespaceName policy name).Asks fun request : Cluster.Request =>
      (∃ called, name = some called ∧ request = .get kind namespaceName called) ∨
        ∃ existing, request = .write (.delete ⟨kind, existing⟩ policy) := by
  cases name with
  | none => exact .done _
  | some called =>
    refine .ask (.inl ⟨called, rfl, rfl⟩) fun answer => ?_
    match answer with
    | .error failure => exact .done _
    | .ok none => exact .done _
    | .ok (some existing) => exact .ask (.inr ⟨existing, rfl⟩) fun _ => .done _

end Reconcile

/-- After a call for an object that is tagged for deletion has succeeded, the object is not there. -/
theorem get?_run_reconcile_of_tagged {kind : Kind} {owner : Owner} {mutate : Mutate kind.Object}
    {desired : kind.Object} {cluster : MemoryCluster}
    (tagged : desired.metadata.isTaggedForDeletion = true) (filed : cluster.store.inventory.Filed)
    {outcome : Outcome}
    (success : ((reconcile owner mutate desired).run MemoryCluster.handler cluster).result = .ok outcome) :
    ∃ name, desired.metadata.name = some name ∧
      ((reconcile owner mutate desired).run MemoryCluster.handler cluster).state.store.inventory.get? kind
        ⟨owner.namespaceName, name⟩ = none := by
  have within : (desired.inNamespace owner.namespaceName).metadata.isTaggedForDeletion = true := tagged
  rcases run_reconcile_cases owner mutate desired cluster with
    ⟨⟨failure, failed⟩, -⟩ | ⟨name, named, result, carried⟩
  · rw [failed] at success
    cases success
  · refine ⟨name, named, ?_⟩
    rw [carried]
    rw [result] at success
    cases stored : cluster.store.inventory.get? kind ⟨owner.namespaceName, name⟩ with
    | none =>
      rw [Reconcile.verdict_none_of_tagged within]
      exact stored
    | some existing =>
      rw [stored, Reconcile.verdict_some_of_tagged within] at success
      rw [Reconcile.verdict_some_of_tagged within]
      -- what is found under a name is filed under it, so it is what the deletion removes
      have here : (⟨kind, existing⟩ : Resource).place = ⟨owner.namespaceName, name⟩ :=
        filed kind _ existing stored
      obtain ⟨-, done⟩ := Verdict.write_of_carryOut_ok success
      rw [Verdict.carryOut, (MemoryStore.write_of_ok done).2, ← here]
      exact Inventory.get?_remove_same _ _ _

/-- A call for an object that is tagged for deletion discards it, without a use for its mutator. So two such
calls that agree on the name, on the policy and on the namespace of the owner are the same: whatever
answers them, they ask the same, are answered the same, end with the same result and leave the same behind.
All they ask is to read the object and to delete it under that policy. From a store in memory the object
is gone once such a call succeeds. -/
theorem deletion_takes_precedence {kind : Kind} (owner other : Owner) (mutate change : Mutate kind.Object)
    (desired twin : kind.Object) (tagged : desired.metadata.isTaggedForDeletion = true)
    (twinTagged : twin.metadata.isTaggedForDeletion = true)
    (sameName : twin.metadata.name = desired.metadata.name)
    (samePolicy : twin.metadata.deletionPolicy? = desired.metadata.deletionPolicy?)
    (sameNamespace : other.namespaceName = owner.namespaceName) :
    reconcile owner mutate desired =
      Reconcile.discard kind owner.namespaceName desired.metadata.deletionPolicy? desired.metadata.name ∧
    (∀ (σ : Type) (handler : Handler Cluster σ) (state : σ),
      (reconcile owner mutate desired).run handler state = (reconcile other change twin).run handler state ∧
        ∀ request ∈ ((reconcile owner mutate desired).run handler state).requests,
          (∃ name, desired.metadata.name = some name ∧ request = .get kind owner.namespaceName name) ∨
            ∃ existing, request = .write (.delete ⟨kind, existing⟩ desired.metadata.deletionPolicy?)) ∧
    ∀ cluster : MemoryCluster, cluster.store.inventory.Filed →
      let run := (reconcile owner mutate desired).run MemoryCluster.handler cluster
      ∀ outcome, run.result = .ok outcome →
        ∃ name, desired.metadata.name = some name ∧
          run.state.store.inventory.get? kind ⟨owner.namespaceName, name⟩ = none := by
  have discards := Reconcile.reconcile_of_tagged owner mutate tagged
  have same : reconcile other change twin = reconcile owner mutate desired := by
    rw [discards, Reconcile.reconcile_of_tagged other change twinTagged, sameName, samePolicy, sameNamespace]
  refine ⟨discards, ?_, ?_⟩
  · intro σ handler state
    refine ⟨by rw [same], ?_⟩
    intro request asked
    obtain ⟨exchange, sent, rfl⟩ := List.mem_map.mp asked
    rw [discards] at sent
    exact (Reconcile.discard_asks kind _ _ _).of_run handler state exchange sent
  · intro cluster filed run outcome success
    exact get?_run_reconcile_of_tagged tagged filed success

/-- An object that a stranger controls is deleted all the same, by a call that has to refuse every mutation
as by one whose desired object carries other contents and labels and names another namespace. -/
theorem deletion_takes_precedence_over_stranger :
    let tags : StringMap := .ofList
      [(DeletionTag.annotation, "true"), (DeletionTag.policyAnnotation, "Orphan")]
    let shop : Owner :=
      ⟨"prod", { apiVersion := "v1", controller := some true, kind := "AppStack", name := "shop", uid := "1" }⟩
    let blog : Owner :=
      ⟨"prod", { apiVersion := "v1", controller := some true, kind := "AppStack", name := "blog", uid := "2" }⟩
    let stranger : OwnerReference :=
      { apiVersion := "v1", controller := some true, kind := "AppStack", name := "wiki", uid := "3" }
    let stored : Kind.configMap.Object :=
      ⟨{ name := some "settings", namespaceName := some "prod", ownerReferences := some [stranger] }, {}⟩
    let desired : Kind.configMap.Object := ⟨{ name := some "settings", annotations := some tags }, {}⟩
    let twin : Kind.configMap.Object :=
      ⟨{ name := some "settings"
         namespaceName := some "staging"
         annotations := some (tags.insert "note" "unused")
         labels := some (.ofList [("app", "blog")]) },
        { data := some (.ofList [("mode", "fast")]) }⟩
    let refuse := (Mutator.refuse "never" : Mutator .configMap).mutate
    let follow := (@Mutator.rule .configMap .data).mutate
    let cluster : MemoryCluster := ⟨MemoryStore.empty.seed ⟨.configMap, stored⟩, ⟨[], true⟩⟩
    let run := (reconcile shop refuse desired).run MemoryCluster.handler cluster
    let second := (reconcile blog follow twin).run MemoryCluster.handler cluster
    second = run ∧ run.result = .ok .deleted ∧
      run.state.store.inventory.get? .configMap ⟨"prod", "settings"⟩ = none := by
  intro tags shop blog stranger stored desired twin refuse follow cluster run second
  have filed : cluster.store.inventory.Filed := Inventory.filed_empty.put ⟨.configMap, stored⟩
  have deleted : run.result = .ok .deleted := by decide +kernel
  obtain ⟨-, alike, gone⟩ := deletion_takes_precedence shop blog refuse follow desired twin (by decide +kernel)
    (by decide +kernel) rfl (by decide +kernel) rfl
  obtain ⟨name, named, absent⟩ := gone cluster filed .deleted deleted
  cases named
  exact ⟨(alike _ _ cluster).1.symm, deleted, absent⟩

end Reconciliation
