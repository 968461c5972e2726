import Reconciliation.Proofs.Verdict
import Mathlib.Control.Monad.Basic

/-! # The four ways of a call

On a store in memory a call sends one read and at most one write, and what it writes is for the place
that it read: the objects that are deleted or updated are filed under their own metadata, and neither
merging nor adopting nor any mutator of the library moves them. A call that fails leaves all objects as
they were.
-/

namespace Reconciliation

theorem ObjectMeta.place_of_named {metadata : ObjectMeta} {namespaceName name : String}
    (within : metadata.namespaceName = some namespaceName) (named : metadata.name = some name) :
    metadata.place = ⟨namespaceName, name⟩ := by
  simp only [place, namespaceOrEmpty, nameAny, within, named, Option.getD_some, Option.some_or]

namespace Reconcile

variable {kind : Kind} {owner : Owner} {mutate : Mutate kind.Object} {wanted : kind.Object}
  {namespaceName name : String}

/-- Whoever adopts an object leaves it at its place. -/
theorem place_adopt (owner : Owner) (object : kind.Object) :
    (owner.adopt kind object).object.metadata.place = object.metadata.place := by
  obtain ⟨references, same⟩ := owner.object_adopt object
  rw [same]
  rfl

/-- An object that has followed a wanted one is at the place of the latter. -/
theorem place_followed (within : wanted.metadata.namespaceName = some namespaceName)
    (named : wanted.metadata.name = some name) (existing : kind.Object) :
    (followed wanted existing).metadata.place = ⟨namespaceName, name⟩ :=
  ObjectMeta.place_of_named within named

/-- A write on an existing object is the update with the object that the mutator has left. -/
theorem write_of_verdictOnExisting {existing : kind.Object} {change : Write} {outcome : Outcome}
    (decided : verdictOnExisting owner mutate wanted existing = .write change outcome) :
    outcome = .updated ∧
      change =
        .update ⟨kind, (mutate (owner.adopt kind (followed wanted existing)).object wanted).object⟩ := by
  simp only [verdictOnExisting] at decided
  split at decided
  · cases decided
  · cases decided
  · split at decided
    · cases decided
      exact ⟨rfl, rfl⟩
    · cases decided

/-- What is written of an object that is wanted is for its place, wherever the existing one is filed. -/
theorem place_of_untagged (keeps : mutate.KeepsPlace)
    (within : wanted.metadata.namespaceName = some namespaceName) (named : wanted.metadata.name = some name)
    (untagged : wanted.metadata.isTaggedForDeletion = false) {existing : Option kind.Object}
    {change : Write} {outcome : Outcome}
    (decided : verdict owner mutate wanted existing = .write change outcome) :
    (change.resource.kind, change.resource.place) = (kind, ⟨namespaceName, name⟩) := by
  cases existing with
  | none =>
    rw [verdict_none_of_untagged untagged] at decided
    split at decided
    · cases decided
    · cases decided
      exact congrArg (Prod.mk kind)
        ((place_adopt owner wanted).trans (ObjectMeta.place_of_named within named))
  | some object =>
    rw [verdict_some_of_untagged untagged] at decided
    obtain ⟨-, rfl⟩ := write_of_verdictOnExisting decided
    refine congrArg (Prod.mk kind) ((keeps _ _).trans ?_)
    exact (place_adopt owner _).trans (place_followed within named object)

end Reconcile

section Runs

variable {kind : Kind} {owner : Owner} {mutate : Mutate kind.Object} {desired : kind.Object}
  {cluster : MemoryCluster}

/-- A call keeps objects filed. -/
theorem filed_run_reconcile (filed : cluster.store.inventory.Filed) :
    ((reconcile owner mutate desired).run MemoryCluster.handler cluster).state.store.inventory.Filed := by
  rcases run_reconcile_cases owner mutate desired cluster with ⟨-, same⟩ | ⟨name, -, -, carried⟩
  · exact same ▸ filed
  · rw [carried]
    exact Verdict.filed_carryOut filed _

/-- A call that fails leaves all objects as they were. -/
theorem inventory_run_reconcile_of_error {failure : Failure}
    (failed : ((reconcile owner mutate desired).run MemoryCluster.handler cluster).result = .error failure) :
    ((reconcile owner mutate desired).run MemoryCluster.handler cluster).state.store.inventory =
      cluster.store.inventory := by
  rcases run_reconcile_cases owner mutate desired cluster with ⟨-, same⟩ | ⟨name, -, result, carried⟩
  · exact same
  · rw [carried]
    exact Verdict.inventory_carryOut_of_error (result.symm.trans failed)

end Runs

end Reconciliation
