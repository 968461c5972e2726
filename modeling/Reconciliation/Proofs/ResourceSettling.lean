import Reconciliation.Proofs.DeploymentLaws

/-! # When resources settle

The rule for resources sets those of the one container again as long as they are not the same as the desired ones. Once
it has set them they are the desired ones, so it goes on setting them exactly if these are not the same as themselves,
because a limit or a request is written as a quantity whose value is infinite or not a number. That does no harm to
the deployment, but the rule reports a change each time.
-/

namespace Reconciliation.Deployment

section Edits

variable {existing : Deployment} {container wanted : Container}

/-- A change leaves one container, with the desired resources. -/
theorem value_settleResources_of_changed (changed : (settleResources wanted existing).changed = true) :
    ∃ container, container.resources = wanted.resources ∧
      (settleResources wanted existing).value = existing.setContainers [container] := by
  rcases settleResources_cases wanted existing with ⟨-, -, -, kept⟩ | ⟨container, set, -, settled⟩
  · rw [kept] at changed
    cases changed
  · exact ⟨container, set, congrArg Edit.value settled⟩

/-- Where the one container has the desired resources, these are set again, as long as they are not the same as
themselves. -/
theorem settleResources_setContainers (own : container.resources = wanted.resources) :
    settleResources wanted (existing.setContainers [container]) =
      ⟨existing.setContainers [container], !ResourceRequirements.same wanted.resources wanted.resources⟩ := by
  rw [settleResources_of_single (containers_setContainers ..), own]
  split
  · next same => rw [same]; rfl
  · next different =>
    rw [Bool.eq_false_iff.mpr different, ← own]
    rfl

end Edits

variable {existing desired : Object Deployment} {wanted : Container}

/-- The rule for resources succeeds where one container is desired. -/
theorem succeeds_containerResources_iff :
    (Rule.containerResources.mutate existing desired).Succeeds ↔ ∃ wanted, desired.content.containers = [wanted] := by
  constructor
  · rintro ⟨changed, outcome⟩
    by_cases single : desired.content.containers.length = 1
    · exact List.length_eq_one_iff.mp single
    · rw [mutate_containerResources_of_not_single single] at outcome
      cases outcome
  · rintro ⟨wanted, single⟩
    rw [mutate_containerResources_of_single single]
    exact ⟨_, rfl⟩

/-- What the rule for resources does when it is run again. -/
theorem mutate_containerResources_again (single : desired.content.containers = [wanted]) :
    let once := Rule.containerResources.mutate existing desired
    Rule.containerResources.mutate once.object desired =
      .done ⟨once.object, (settleResources wanted existing.content).changed &&
        !ResourceRequirements.same wanted.resources wanted.resources⟩ := by
  intro once
  have run : once = .done ((settleResources wanted existing.content).map existing.withContent) :=
    mutate_containerResources_of_single single
  rw [mutate_containerResources_of_single single]
  cases changed : (settleResources wanted existing.content).changed with
  | false =>
    have kept : settleResources wanted existing.content = .keep existing.content :=
      settleResources_of_unchanged changed
    have left : once.object = existing := by rw [run, kept]; rfl
    rw [left, kept]
    rfl
  | true =>
    obtain ⟨container, own, value⟩ := value_settleResources_of_changed changed
    have left : once.object = existing.withContent (existing.content.setContainers [container]) := by
      rw [run, ← value]
      rfl
    rw [left]
    exact congrArg (fun edit => Mutation.done (edit.map existing.withContent)) (settleResources_setContainers own)

/-- A second run of the rule for resources leaves the deployment as it is. It has nothing to report exactly if the first
one had not, or the desired limits and requests that are quantities at all have finite values. -/
theorem resources_settle_iff_bounded (success : (Rule.containerResources.mutate existing desired).Succeeds) :
    let once := Rule.containerResources.mutate existing desired
    let twice := Rule.containerResources.mutate once.object desired
    twice.object = once.object ∧ twice.Succeeds ∧
      (twice.outcome = .ok false ↔ once.outcome = .ok false ∨
        ∀ container ∈ desired.content.containers, ResourceRequirements.isBounded container.resources = true) := by
  intro once twice
  obtain ⟨wanted, single⟩ := succeeds_containerResources_iff.mp success
  have first : once.outcome = .ok (settleResources wanted existing.content).changed := by
    rw [show once = _ from mutate_containerResources_of_single single]
    rfl
  have again : twice = .done ⟨once.object, (settleResources wanted existing.content).changed &&
      !ResourceRequirements.same wanted.resources wanted.resources⟩ := mutate_containerResources_again single
  refine ⟨by rw [again, Mutation.object_done], ⟨_, congrArg Mutation.outcome again⟩, ?_⟩
  rw [again, first, single, List.forall_mem_singleton, ← ResourceRequirements.same_self_iff, Mutation.outcome_done,
    Except.ok.injEq, Except.ok.injEq, Bool.and_eq_false_iff, Bool.not_eq_false']

/-- A deployment of one container with these resources. -/
def withResources (resources : Option ResourceRequirements) : Object Deployment :=
  ofPods { containers := [{ name := "web", resources }] }

/-- Only a limit for processors. -/
def cpuLimit (limit : String) : Option ResourceRequirements := some { limits := some (.ofList [("cpu", limit)]) }

/-- Half a processor is set once. -/
theorem resources_settle_of_half :
    let desired := withResources (cpuLimit "500m")
    let once := Rule.containerResources.mutate (withResources (cpuLimit "1")) desired
    let twice := Rule.containerResources.mutate once.object desired
    once.Succeeds ∧ twice.object = once.object ∧ twice.outcome = .ok false := by
  intro desired once twice
  have success : once.Succeeds := succeeds_containerResources_iff.mpr ⟨_, rfl⟩
  have settles := resources_settle_iff_bounded success
  refine ⟨success, settles.1, settles.2.2.mpr (.inr fun container listed => ?_)⟩
  obtain rfl := List.mem_singleton.mp listed
  decide +kernel

/-- A limit without a finite value is set where there is none, and then over and over. -/
theorem mutate_again_of_unbounded {limit : String} (unbounded : Quantity.isBounded limit = false) :
    let desired := withResources (cpuLimit limit)
    let once := Rule.containerResources.mutate (withResources none) desired
    once = .done ⟨desired, true⟩ ∧ Rule.containerResources.mutate once.object desired = .done ⟨desired, true⟩ := by
  intro desired once
  have run : once = .done ⟨desired, true⟩ := rfl
  have differs : ResourceRequirements.same (cpuLimit limit) (cpuLimit limit) = false := by
    have bounded : ResourceRequirements.isBounded (cpuLimit limit) = (Quantity.isBounded limit && true && true) := rfl
    rw [Bool.eq_false_iff, Ne, ResourceRequirements.same_self_iff, bounded, unbounded]
    decide
  refine ⟨run, ?_⟩
  rw [mutate_containerResources_again rfl, differs]
  rfl

/-- A limit beyond all finite values is set again by every run. So is one of zero that is written with a power of ten
that is infinite. -/
theorem resources_set_again :
    (let desired := withResources (cpuLimit "1e400")
     let once := Rule.containerResources.mutate (withResources none) desired
     once.Succeeds ∧ (Rule.containerResources.mutate once.object desired).outcome = .ok true) ∧
    (let desired := withResources (cpuLimit "0e400")
     let once := Rule.containerResources.mutate (withResources none) desired
     once.Succeeds ∧ (Rule.containerResources.mutate once.object desired).outcome = .ok true) := by
  have infinite : Quantity.isBounded "1e400" = false := by decide +kernel
  have nought : Quantity.isBounded "0e400" = false := by decide +kernel
  exact ⟨⟨⟨true, rfl⟩, congrArg Mutation.outcome (mutate_again_of_unbounded infinite).2⟩,
    ⟨true, rfl⟩, congrArg Mutation.outcome (mutate_again_of_unbounded nought).2⟩

end Reconciliation.Deployment
