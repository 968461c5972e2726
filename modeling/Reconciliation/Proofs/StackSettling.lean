import Reconciliation.AppStack.Parts
import Reconciliation.Proofs.DeploymentSparing
import Reconciliation.Proofs.KindLaws
import Reconciliation.Proofs.PullSecrets

/-! # The mutators of a stack settle

Whatever the existing objects look like, each mutator of a stack has no work left after it has succeeded for the
object that the stack wants. One of their rules does not do so for every wanted object: the one for resources does
where the quantities are finite.
-/

namespace Reconciliation.AppStack

open Deployment

/-- The rules for the deployment of a stack. -/
def deploymentRules : List Rule := genericRules ++ [.replicas, .removeDuplicateEnvVars]

theorem mutate_deploymentMutator : deploymentMutator.mutate = Mutate.chain (deploymentRules.map Rule.mutate) := by
  rw [deploymentMutator, Mutator.mutate_chain, List.map_map]
  rfl

theorem mutate_serviceMutator :
    serviceMutator.mutate = Mutate.chain ([Service.Rule.ports, .selector].map Service.Rule.mutate) := by
  rw [serviceMutator, Mutator.mutate_chain]
  rfl

/-- All of them but the one for resources are lawful, and there is none for the mounts of init containers. -/
theorem isLawful_of_deploymentRules :
    ∀ rule ∈ deploymentRules, rule ≠ .containerResources → rule.IsLawful ∧ rule ≠ .initContainerVolumeMounts := by
  intro rule listed other
  cases rule with
  | containerResources => exact absurd rfl other
  | namedVolumes names | namedContainerVolumeMounts names | namedInitContainerVolumeMounts names | envVar name =>
    simp [deploymentRules, genericRules] at listed
  | initContainerVolumeMounts => exact absurd listed (by decide)
  | _ => exact ⟨trivial, nofun⟩

/-- None of the others touches the resources of containers. -/
theorem deploymentRules_spare_resources {rule : Rule} (listed : rule ∈ deploymentRules)
    (other : rule ≠ .containerResources) (desired : Object Deployment) :
    rule.mutate.Spares Rule.containerResources.mutate desired := by
  have outside : ∀ rule ∈ deploymentRules, rule ≠ .containerResources →
      ∀ aspect ∈ Rule.containerResources.reads, aspect ∉ rule.writes := by decide
  exact Rule.spares_of_disjoint (outside rule listed other) desired

/-- No rule gives work to an earlier one. -/
theorem deploymentRules_ordered (desired : Object Deployment) :
    deploymentRules.Pairwise fun earlier later => later.mutate.Spares earlier.mutate desired := by
  have first : deploymentRules.Pairwise fun earlier later =>
      later = .containerResources → earlier = .annotations := by
    decide
  refine first.imp_of_mem fun {earlier later} within among order => ?_
  by_cases resources : later = .containerResources
  · rw [resources, order resources]
    exact Rule.spares_of_disjoint (by decide) desired
  · by_cases before : earlier = .containerResources
    · exact before ▸ deploymentRules_spare_resources among resources desired
    · obtain ⟨lawful, mounts⟩ := isLawful_of_deploymentRules earlier within before
      exact Rule.spares_of_isLawful (isLawful_of_deploymentRules later among resources).1 lawful
        (fun _ => mounts) desired

theorem deploymentRules_spareIdly {rule other : Rule} (listed : rule ∈ deploymentRules) (among : other ∈ deploymentRules)
    (desired : Object Deployment) : rule.mutate.SparesIdly other.mutate desired := by
  by_cases resources : rule = .containerResources
  · intro existing idle quiet
    subst resources
    rwa [object_of_quiet_containerResources idle]
  · by_cases others : other = .containerResources
    · exact others ▸ (deploymentRules_spare_resources listed resources desired).idly
    · exact Rule.sparesIdly_of_isLawful (isLawful_of_deploymentRules rule listed resources).1
        (isLawful_of_deploymentRules other among others).1 desired

section Parts

variable {rules : List Rule} (part : rules.Sublist deploymentRules) {desired : Object Deployment}

include part

/-- After a success of some of the rules none but the one for resources has any work left. -/
theorem quiet_after_deploymentRules {existing : Object Deployment}
    (success : (Mutate.chain (rules.map Rule.mutate) existing desired).Succeeds) {rule : Rule} (listed : rule ∈ rules)
    (other : rule ≠ .containerResources) :
    rule.mutate.Quiet desired (Mutate.chain (rules.map Rule.mutate) existing desired).object := by
  have lawful := (isLawful_of_deploymentRules rule (part.subset listed) other).1
  have ordered := (deploymentRules_ordered desired).sublist part
  obtain ⟨before, after, rfl⟩ := List.append_of_mem listed
  rw [List.map_append, List.map_cons] at success ⊢
  refine Mutate.quiet_after_chain (Rule.lawful_of_isLawful lawful desired) ?_ success
  exact List.forall_mem_map.mpr (List.pairwise_cons.mp (List.pairwise_append.mp ordered).2.1).1

/-- Some of the rules settle if the resources are the same as themselves. -/
theorem deploymentRules_settleAt
    (own : ∀ container ∈ desired.content.containers,
      ResourceRequirements.same container.resources container.resources = true) :
    (Mutate.chain (rules.map Rule.mutate)).SettlesAt desired := by
  refine Mutate.settlesAt_chain_of_pairwise ?settle ?ordered ?spare
  case settle =>
    refine List.forall_mem_map.mpr fun rule listed => ?_
    by_cases resources : rule = .containerResources
    · exact resources ▸ containerResources_settlesAt_of_same own
    · exact Rule.lawful_of_isLawful (isLawful_of_deploymentRules rule (part.subset listed) resources).1 desired
  case ordered => exact List.pairwise_map.mpr ((deploymentRules_ordered desired).sublist part)
  case spare =>
    exact List.forall_mem_map.mpr fun rule listed => List.forall_mem_map.mpr fun other among =>
      deploymentRules_spareIdly (part.subset listed) (part.subset among) desired

end Parts

theorem deploymentMutator_settlesAt {desired : Object Deployment}
    (bounded : ∀ container ∈ desired.content.containers, ResourceRequirements.isBounded container.resources = true) :
    deploymentMutator.mutate.SettlesAt desired := by
  rw [mutate_deploymentMutator]
  exact deploymentRules_settleAt (.refl deploymentRules) fun container within =>
    ResourceRequirements.same_self (bounded container within)

theorem serviceMutator_settlesAt (desired : Object Service) : serviceMutator.mutate.SettlesAt desired := by
  rw [mutate_serviceMutator]
  refine Mutate.settlesAt_chain_of_spares ?_ ?_
  · exact List.forall_mem_map.mpr fun rule _ => rule.lawful desired
  · exact List.forall_mem_map.mpr fun rule _ => List.forall_mem_map.mpr fun other _ =>
      Service.Rule.spares rule.lawful desired

end Reconciliation.AppStack
