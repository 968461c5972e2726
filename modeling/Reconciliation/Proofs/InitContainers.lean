import Reconciliation.Proofs.DeploymentLaws

/-! # Init containers as a whole

The rule for all of the init containers cuts off those that are too many, replaces those that differ and adds those that
are missing, and whatever of this it has to do, it leaves the desired ones. An absent list of init containers is like an
empty one, and is left absent if none are desired.
-/

namespace Reconciliation.Deployment

variable {existing desired : Object Deployment}

theorem mutate_podInitContainers_of_same (same : existing.content.initContainers = desired.content.initContainers) :
    Rule.podInitContainers.mutate existing desired = .done (.keep existing) := by
  have kept : followInitContainers existing.content desired.content = .keep existing.content :=
    (followInitContainers_eq_ite ..).trans (if_pos same)
  exact congrArg (fun edit => Mutation.done (edit.map existing.withContent)) kept

theorem mutate_podInitContainers_of_ne
    (different : existing.content.initContainers ≠ desired.content.initContainers) :
    Rule.podInitContainers.mutate existing desired = .done
      ⟨existing.withContent (existing.content.setInitContainers (some desired.content.initContainers)), true⟩ := by
  have replaced := (followInitContainers_eq_ite existing.content desired.content).trans (if_neg different)
  exact congrArg (fun edit => Mutation.done (edit.map existing.withContent)) replaced

/-- The init containers become the desired ones, which is reported exactly if they were others, and nothing is done if
they were not. With the init containers that were there put back, the deployment is the one that was there, with its
specification and that of its pods created if they were absent. -/
theorem init_containers_become_desired (existing desired : Object Deployment) :
    let before := existing.content.initContainers
    let wanted := desired.content.initContainers
    let mutation := Rule.podInitContainers.mutate existing desired
    let after := mutation.object
    mutation.Succeeds ∧ (mutation.outcome = .ok true ↔ before ≠ wanted) ∧
      after.content.initContainers = wanted ∧ (before = wanted → after = existing) ∧
      (before ≠ wanted → after = existing.withContent (existing.content.setPodSpec
        { existing.content.podSpecOrDefault with initContainers := some wanted })) ∧
      after.metadata = existing.metadata ∧
      after.content.setInitContainers existing.content.podSpecOrDefault.initContainers = existing.content.filled := by
  intro before wanted mutation after
  by_cases same : before = wanted
  · have kept : mutation = .done (.keep existing) := mutate_podInitContainers_of_same same
    have reported : mutation.outcome = .ok false := congrArg Mutation.outcome kept
    have left : after = existing := congrArg Mutation.object kept
    refine ⟨⟨false, reported⟩, iff_of_false ?_ fun different => different same, ?_, fun _ => left,
      fun different => absurd same different, congrArg (·.metadata) left, ?_⟩
    · rw [reported]
      exact nofun
    · rw [left]
      exact same
    · rw [left]
      rfl
  · have replaced := mutate_podInitContainers_of_ne same
    have reported : mutation.outcome = .ok true := congrArg Mutation.outcome replaced
    have left : after = _ := congrArg Mutation.object replaced
    refine ⟨⟨true, reported⟩, iff_of_true reported same, congrArg (·.content.initContainers) left,
      fun equal => absurd equal same, fun _ => left, congrArg (·.metadata) left, ?_⟩
    exact congrArg (·.content.setInitContainers existing.content.podSpecOrDefault.initContainers) left

/-- An extra init container is cut off and the other one replaced. Where none is desired, an absent list stays
absent. -/
theorem init_containers_become_desired_of_seed :
    let container (name image : String) : Container := { name, image := some image }
    let existing := ofPods
      { containers := [], initContainers := some [container "migrate" "migrate:1", container "seed" "seed:1"] }
    let desired := ofPods { containers := [], initContainers := some [container "migrate" "migrate:2"] }
    let bare := ofPods { containers := [] }
    let empty := ofPods { containers := [], initContainers := some [] }
    existing.content.initContainers ≠ desired.content.initContainers ∧
      (Rule.podInitContainers.mutate existing desired).object = desired ∧
      bare.content.initContainers = empty.content.initContainers ∧
      (Rule.podInitContainers.mutate bare empty).object = bare := by
  intro container existing desired bare empty
  have different : existing.content.initContainers ≠ desired.content.initContainers := by decide
  have replaced := (init_containers_become_desired existing desired).2.2.2.2.1 different
  have kept := (init_containers_become_desired bare empty).2.2.2.1 rfl
  exact ⟨different, replaced, rfl, kept⟩

end Reconciliation.Deployment
