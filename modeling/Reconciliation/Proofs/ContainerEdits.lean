import Reconciliation.Mutator.Deployment
import Reconciliation.Proofs.Edits

/-! # Edits of containers

An edit of each container maps the containers that are there and does nothing else: what is absent stays absent. It
reports a change exactly if the edit of some container does.

The rule for resources is about one container. Either it keeps the deployment, whose one container has the same
resources as the desired one, or it leaves one container with the desired resources and reports a change
(`settleResources_cases`).
-/

namespace Reconciliation.Deployment

/-- The deployment with other containers in place of those that are there. -/
def mapContainers (change : Container → Container) (deployment : Deployment) : Deployment :=
  { deployment with
    spec := deployment.spec.map fun spec =>
      { spec with
        template.spec := spec.template.spec.map fun pods => { pods with containers := pods.containers.map change } } }

theorem containers_mapContainers (change : Container → Container) (deployment : Deployment) :
    (deployment.mapContainers change).containers = deployment.containers.map change := by
  match deployment with
  | ⟨none, _⟩ | ⟨some ⟨_, _, _, _, _, _, _, ⟨_, none⟩⟩, _⟩ | ⟨some ⟨_, _, _, _, _, _, _, ⟨_, some _⟩⟩, _⟩ => rfl

theorem mapContainers_of_fixed {change : Container → Container} {deployment : Deployment}
    (fixed : ∀ container ∈ deployment.containers, change container = container) :
    deployment.mapContainers change = deployment := by
  match deployment with
  | ⟨none, _⟩ | ⟨some ⟨_, _, _, _, _, _, _, ⟨_, none⟩⟩, _⟩ => rfl
  | ⟨some ⟨_, _, _, _, _, _, _, ⟨_, some pods⟩⟩, _⟩ =>
    have same : pods.containers.map change = pods.containers := (List.map_congr_left fixed).trans (List.map_id _)
    simp only [mapContainers, Option.map_some, same]

variable {edit : Container → Edit Container} {existing : Deployment}

theorem editEachContainer_eq (edit : Container → Edit Container) (existing : Deployment) :
    editEachContainer edit existing =
      ⟨existing.mapContainers fun container => (edit container).value,
        existing.containers.any fun container => (edit container).changed⟩ := by
  match existing with
  | ⟨none, _⟩ | ⟨some ⟨_, _, _, _, _, _, _, ⟨_, none⟩⟩, _⟩ => rfl
  | ⟨some ⟨_, _, _, _, _, _, _, ⟨_, some pods⟩⟩, _⟩ =>
    simp only [editEachContainer, podSpec?, template?, Option.map_some, Option.bind_some, List.map_map, List.any_map]
    rfl

theorem changed_editEachContainer (edit : Container → Edit Container) (existing : Deployment) :
    (editEachContainer edit existing).changed = existing.containers.any fun container => (edit container).changed :=
  congrArg Edit.changed (editEachContainer_eq edit existing)

theorem changed_editEachContainer_eq_false_iff :
    (editEachContainer edit existing).changed = false ↔
      ∀ container ∈ existing.containers, (edit container).changed = false := by
  simp [changed_editEachContainer]

/-- If editing a container again changes nothing, neither does editing each of them again. -/
theorem changed_editEachContainer_again (again : ∀ container, (edit (edit container).value).changed = false)
    (existing : Deployment) : (editEachContainer edit (editEachContainer edit existing).value).changed = false := by
  rw [changed_editEachContainer_eq_false_iff, editEachContainer_eq, containers_mapContainers, List.forall_mem_map]
  exact fun container _ => again container

theorem editEachContainer_of_still (still : ∀ container ∈ existing.containers, edit container = .keep container) :
    editEachContainer edit existing = .keep existing := by
  refine Edit.eq_keep_iff.mpr ⟨?_, ?_⟩
  · rw [editEachContainer_eq]
    exact mapContainers_of_fixed fun container within => congrArg Edit.value (still container within)
  · exact changed_editEachContainer_eq_false_iff.mpr fun container within =>
      congrArg Edit.changed (still container within)

@[simp] theorem containers_setContainers (deployment : Deployment) (containers : List Container) :
    (deployment.setContainers containers).containers = containers := rfl

section Resources

/-- The rule for resources as an edit, for one desired container. -/
def settleResources (wanted : Container) (existing : Deployment) : Edit Deployment :=
  (ensureOneContainer [wanted] existing).bind (followResources wanted)

theorem followContainerResources_eq (existing desired : Deployment) :
    followContainerResources existing desired =
      match desired.containers with
      | [wanted] => .ok (settleResources wanted existing)
      | wanted =>
          .error ("desired spec.template.spec.containers has " ++ toString wanted.length ++ " entries, expected 1") :=
  rfl

/-- The rule for resources succeeds where one container is desired. -/
theorem followContainerResources_ok {existing desired : Deployment} {after : Edit Deployment}
    (success : followContainerResources existing desired = .ok after) :
    ∃ wanted, desired.containers = [wanted] ∧ after = settleResources wanted existing := by
  rw [followContainerResources_eq] at success
  split at success
  · next wanted single => exact ⟨wanted, single, (Except.ok.inj success).symm⟩
  · cases success

variable {existing : Deployment} {wanted : Container}

/-- One container keeps its resources if they are the same as the wanted ones, and gets these otherwise. -/
theorem settleResources_of_single {container : Container} (single : existing.containers = [container]) :
    settleResources wanted existing =
      if ResourceRequirements.same container.resources wanted.resources then .keep existing
      else ⟨existing.setContainers [{ container with resources := wanted.resources }], true⟩ := by
  simp only [settleResources, ensureOneContainer, single, List.length_singleton, if_true, Edit.keep_bind,
    followResources]

/-- Other than one container is replaced. -/
theorem settleResources_of_not_single (several : existing.containers.length ≠ 1) :
    settleResources wanted existing = ⟨existing.setContainers [wanted], true⟩ := by
  rw [settleResources, ensureOneContainer, if_neg several]
  refine Edit.ext ?_ rfl
  simp only [Edit.value_bind, followResources, containers_setContainers]
  split <;> rfl

/-- All that the rule for resources does: nothing, or it leaves one container with the wanted resources, which is the
one that was there if there was one. -/
theorem settleResources_cases (wanted : Container) (existing : Deployment) :
    (∃ container, existing.containers = [container] ∧
      ResourceRequirements.same container.resources wanted.resources = true ∧
      settleResources wanted existing = .keep existing) ∨
    ∃ container, container.resources = wanted.resources ∧
      (∀ before, existing.containers = [before] → container = { before with resources := wanted.resources }) ∧
      settleResources wanted existing = ⟨existing.setContainers [container], true⟩ := by
  by_cases single : existing.containers.length = 1
  · obtain ⟨container, listed⟩ := List.length_eq_one_iff.mp single
    rw [settleResources_of_single listed]
    split
    · next same => exact .inl ⟨container, listed, same, rfl⟩
    · refine .inr ⟨{ container with resources := wanted.resources }, rfl, fun before alone => ?_, rfl⟩
      rw [List.singleton_inj.mp (listed.symm.trans alone)]
  · refine .inr ⟨wanted, rfl, fun before alone => ?_, settleResources_of_not_single single⟩
    exact absurd (congrArg List.length alone) single

end Resources

section Rule

variable {existing desired : Object Deployment}

theorem mutate_containerResources_of_single {wanted : Container} (single : desired.content.containers = [wanted]) :
    Rule.containerResources.mutate existing desired =
      .done ((settleResources wanted existing.content).map existing.withContent) := by
  simp only [Rule.mutate, mutateUnlessRefused, followContainerResources_eq, single]

/-- Other than one desired container is refused. -/
theorem mutate_containerResources_of_not_single (several : desired.content.containers.length ≠ 1) :
    Rule.containerResources.mutate existing desired =
      .refused existing (.invariantViolation (describe desired)
        ("desired spec.template.spec.containers has " ++ toString desired.content.containers.length ++
          " entries, expected 1")) := by
  simp only [Rule.mutate, mutateUnlessRefused]
  split
  · next after edited =>
    obtain ⟨wanted, single, -⟩ := followContainerResources_ok edited
    exact absurd (congrArg List.length single) several
  · next reason refused =>
    rw [followContainerResources_eq] at refused
    split at refused
    · cases refused
    · cases refused
      rfl

end Rule

end Reconciliation.Deployment
