import Reconciliation.Proofs.DeploymentAspects

/-! # What no rule touches

The aspects of a deployment are what rules look at and write. The rest of it, such as the selector and the status, or
the names and commands of containers, is what no rule ever writes: all of them leave it as it is, even if they refuse
or create structures that are absent. Only the rule for resources takes over whole containers, where there is not
exactly one.
-/

namespace Reconciliation.Deployment

/-- What is left of a container without what rules see of it. -/
def restOfContainer (container : Container) : Container :=
  { container with
    args := none
    env := none
    image := none
    livenessProbe := none
    readinessProbe := none
    resources := none
    volumeMounts := none }

/-- What is left of a deployment with these containers without what rules see of it. -/
def restWith (containers : List Container) (deployment : Object Deployment) : Object Deployment :=
  { metadata := { deployment.metadata with annotations := none }
    content :=
      { deployment.content with
        spec := some
          { deployment.content.specOrDefault with
            replicas := none
            strategy := none
            template :=
              { metadata := some { deployment.content.podMetadata with labels := none, annotations := none }
                spec := some
                  { deployment.content.podSpecOrDefault with
                    affinity := none
                    containers
                    initContainers := none
                    priorityClassName := none
                    tolerations := none
                    topologySpreadConstraints := none
                    volumes := none } } } } }

/-- What is left of a deployment without what rules see of it. -/
def rest (deployment : Object Deployment) : Object Deployment :=
  restWith (deployment.content.containers.map restOfContainer) deployment

section Frames

variable (existing desired : Object Deployment)

/-- Creating an absent specification is no change of the rest. -/
theorem rest_setSpec_self :
    rest (existing.withContent (existing.content.setSpec existing.content.specOrDefault)) = rest existing := by
  obtain ⟨metadata, ⟨spec, status⟩⟩ := existing
  cases spec <;> rfl

theorem rest_editContainers {edit : Container → Container → Edit Container}
    (kept : ∀ current wanted, restOfContainer (edit current wanted).value = restOfContainer current) :
    rest (existing.withContent (editContainers edit existing.content desired.content).value) = rest existing :=
  congrArg (restWith · existing) (map_value_pairs kept existing.content.containers desired.content.containers)

theorem rest_editInitContainers (edit : Container → Container → Edit Container) :
    rest (existing.withContent (editInitContainers edit existing.content desired.content).value) = rest existing := by
  rw [editInitContainers]
  split <;> rfl

theorem rest_pairContainers {edit : Container → Container → Edit Container}
    (kept : ∀ current wanted, restOfContainer (edit current wanted).value = restOfContainer current) :
    rest (mutateUnlessRefused (pairContainers edit) existing desired).object = rest existing := by
  rw [mutateUnlessRefused]
  split
  · next after edited =>
    simp only [pairContainers] at edited
    split at edited
    · cases edited
      exact rest_editContainers existing desired kept
    · cases edited
  · rfl

theorem rest_dropRepeatedEnvVars :
    rest (existing.withContent (editEachContainer dropRepeatedEnvVars existing.content).value) = rest existing := by
  have kept (container : Container) :
      restOfContainer (dropRepeatedEnvVars container).value = restOfContainer container := by
    rw [dropRepeatedEnvVars]
    split <;> rfl
  rw [editEachContainer]
  split
  · rfl
  · refine congrArg (restWith · existing) ?_
    change ((existing.content.containers.map dropRepeatedEnvVars).map (·.value)).map restOfContainer = _
    rw [List.map_map, List.map_map]
    exact List.map_congr_left fun container _ => kept container

/-- No rule but the one for resources touches the rest of a deployment. -/
theorem Rule.rest_mutate {rule : Rule} (other : rule ≠ .containerResources) :
    rest (rule.mutate existing desired).object = rest existing := by
  cases rule with
  | annotations | namedVolumes _ => rfl
  | strategy => exact rest_setSpec_self existing
  | containerResources => exact absurd rfl other
  | args | probes | containerImages => exact rest_pairContainers existing desired fun _ _ => rfl
  | removeDuplicateEnvVars => exact rest_dropRepeatedEnvVars existing
  | replicas =>
    simp only [Rule.mutate, Mutate.ofContentEdit, Mutate.ofEdit, Mutation.object_done, Edit.value_map, followReplicas]
    split
    · rfl
    · exact rest_setSpec_self existing
  | podTemplateLabels | podTemplateAnnotations =>
    simp only [Rule.mutate, Mutate.ofContentEdit, Mutate.ofEdit, Mutation.object_done, Edit.value_map, mergePodMetadata]
    split
    · rfl
    · exact rest_setSpec_self existing
  | affinity | tolerations | priorityClass | topologySpreadConstraints =>
    simp only [Rule.mutate, Mutate.ofContentEdit, Mutate.ofEdit, Mutation.object_done, Edit.value_map, followPodField]
    split <;> rfl
  | initContainerImages =>
    simp only [Rule.mutate, Mutate.ofContentEdit, Mutate.ofEdit, Mutation.object_done, Edit.value_map,
      followInitContainerImages]
    split <;> rfl
  | volumes =>
    simp only [Rule.mutate, Mutate.ofContentEdit, Mutate.ofEdit, Mutation.object_done, Edit.value_map, followVolumes]
    split <;> rfl
  | podInitContainers =>
    simp only [Rule.mutate, Mutate.ofContentEdit, Mutate.ofEdit, Mutation.object_done, Edit.value_map,
      followInitContainers]
    split <;> rfl
  | containerVolumeMounts | namedContainerVolumeMounts _ =>
    simp only [Rule.mutate, Mutate.ofContentEdit, Mutate.ofEdit, Mutation.object_done, Edit.value_map,
      editEqualContainers]
    split
    · exact rest_editContainers existing desired fun _ _ => rfl
    · rfl
  | initContainerVolumeMounts | namedInitContainerVolumeMounts _ =>
    simp only [Rule.mutate, Mutate.ofContentEdit, Mutate.ofEdit, Mutation.object_done, Edit.value_map,
      editEqualInitContainers]
    split
    · exact rest_editInitContainers existing desired _
    · rfl
  | envVar name =>
    simp only [Rule.mutate, Mutate.ofContentEdit, Mutate.ofEdit, Mutation.object_done, Edit.value_map, followEnvVar]
    split
    · have first := rest_editInitContainers existing desired (editEnvVar name)
      exact (rest_editContainers (existing.withContent _) desired fun _ _ => rfl).trans first
    · rfl

/-- The rule for resources touches containers only. -/
theorem restWith_containerResources :
    restWith [] (Rule.containerResources.mutate existing desired).object = restWith [] existing := by
  simp only [Rule.mutate, mutateUnlessRefused]
  split
  · next after edited =>
    obtain ⟨wanted, -, rfl⟩ := followContainerResources_ok edited
    rcases settleResources_cases wanted existing.content with ⟨-, -, -, kept⟩ | ⟨container, -, -, settled⟩
    · rw [kept]
      rfl
    · rw [settled]
      rfl
  · rfl

/-- No rule touches the rest of a deployment apart from its containers. -/
theorem Rule.restWith_mutate (rule : Rule) :
    restWith [] (rule.mutate existing desired).object = restWith [] existing := by
  by_cases resources : rule = .containerResources
  · exact resources ▸ restWith_containerResources existing desired
  · have kept : restWith [] (rest (rule.mutate existing desired).object) = restWith [] (rest existing) :=
      congrArg (restWith []) (Rule.rest_mutate existing desired resources)
    exact kept

/-- No rule makes the metadata of the pods absent. -/
theorem Rule.isSome_podMetadata_mutate (rule : Rule)
    (present : existing.content.specOrDefault.template.metadata.isSome = true) :
    (rule.mutate existing desired).object.content.specOrDefault.template.metadata.isSome = true := by
  cases rule with
  | annotations | namedVolumes _ | strategy => exact present
  | args | probes | containerImages =>
    simp only [Rule.mutate, mutateUnlessRefused, pairContainers]
    split
    · next after edited =>
      split at edited <;> cases edited
      exact present
    · exact present
  | containerResources =>
    simp only [Rule.mutate, mutateUnlessRefused]
    split
    · next after edited =>
      obtain ⟨wanted, -, rfl⟩ := followContainerResources_ok edited
      rcases settleResources_cases wanted existing.content with ⟨-, -, -, kept⟩ | ⟨container, -, -, settled⟩
      · rw [kept]
        exact present
      · rw [settled]
        exact present
    · exact present
  | replicas =>
    simp only [Rule.mutate, Mutate.ofContentEdit, Mutate.ofEdit, Mutation.object_done, Edit.value_map, followReplicas]
    split <;> exact present
  | podTemplateLabels | podTemplateAnnotations =>
    simp only [Rule.mutate, Mutate.ofContentEdit, Mutate.ofEdit, Mutation.object_done, Edit.value_map, mergePodMetadata]
    split
    · exact present
    · rfl
  | affinity | tolerations | priorityClass | topologySpreadConstraints =>
    simp only [Rule.mutate, Mutate.ofContentEdit, Mutate.ofEdit, Mutation.object_done, Edit.value_map, followPodField]
    split <;> exact present
  | initContainerImages | volumes | podInitContainers | containerVolumeMounts | namedContainerVolumeMounts _ =>
    simp only [Rule.mutate, Mutate.ofContentEdit, Mutate.ofEdit, Mutation.object_done, Edit.value_map,
      followInitContainerImages, followVolumes, followInitContainers, editEqualContainers]
    split <;> exact present
  | initContainerVolumeMounts | namedInitContainerVolumeMounts _ =>
    simp only [Rule.mutate, Mutate.ofContentEdit, Mutate.ofEdit, Mutation.object_done, Edit.value_map,
      editEqualInitContainers, editInitContainers]
    split
    · split <;> exact present
    · exact present
  | removeDuplicateEnvVars =>
    simp only [Rule.mutate, Mutate.ofContentEdit, Mutate.ofEdit, Mutation.object_done, Edit.value_map,
      editEachContainer]
    split <;> exact present
  | envVar name =>
    simp only [Rule.mutate, Mutate.ofContentEdit, Mutate.ofEdit, Mutation.object_done, Edit.value_map, followEnvVar,
      editInitContainers]
    split
    · simp only [Edit.value_bind]
      split <;> exact present
    · exact present

end Frames

end Reconciliation.Deployment
