import Reconciliation.Proofs.DeploymentLaws

/-! # Volumes in any order

The rule for volumes compares them sorted by name, and volumes of one name stay in the order that they have. So equal
sorted volumes are the same volumes in some order, and the other way round too if the desired names are all different,
as servers require: then no two volumes that may change places are told apart by more than their names, however often
names are repeated on the existing side.
-/

namespace Reconciliation.Deployment

theorem perm_of_sortedVolumes_eq {deployment other : Deployment}
    (same : deployment.sortedVolumes = other.sortedVolumes) : deployment.volumes.Perm other.volumes :=
  perm_of_mergeSort_name_eq same

/-- Where all names are different, sorted volumes tell nothing but which volumes there are. -/
theorem sortedVolumes_eq_iff {deployment other : Deployment} (distinct : (other.volumes.map (·.name)).Nodup) :
    deployment.sortedVolumes = other.sortedVolumes ↔ deployment.volumes.Perm other.volumes :=
  mergeSort_name_eq_iff fun _ here _ there => List.inj_on_of_nodup_map distinct here there

variable {existing desired : Object Deployment}

theorem volumes_mutate_of_same (same : existing.content.sortedVolumes = desired.content.sortedVolumes) :
    Rule.volumes.mutate existing desired = .done (.keep existing) := by
  have kept : followVolumes existing.content desired.content = .keep existing.content := if_pos same
  exact congrArg (fun edit => Mutation.done (edit.map existing.withContent)) kept

theorem volumes_mutate_of_ne (different : existing.content.sortedVolumes ≠ desired.content.sortedVolumes) :
    Rule.volumes.mutate existing desired =
      .done ⟨existing.withContent (existing.content.setVolumes desired.content.podSpecOrDefault.volumes), true⟩ := by
  have replaced : followVolumes existing.content desired.content =
      ⟨existing.content.setVolumes desired.content.podSpecOrDefault.volumes, true⟩ := if_neg different
  exact congrArg (fun edit => Mutation.done (edit.map existing.withContent)) replaced

/-- If the desired volumes have different names, nothing is done and nothing reported exactly if the volumes are the
desired ones in some order. Otherwise they become the desired ones, which is reported, and nothing else changes, except
that the specification and that of the pods are created if they are absent. -/
theorem volumes_follow_up_to_order (distinct : (desired.content.volumes.map (·.name)).Nodup) :
    let mutation := Rule.volumes.mutate existing desired
    ((mutation.outcome = .ok false ∧ mutation.object = existing) ↔
        existing.content.volumes.Perm desired.content.volumes) ∧
      (¬ existing.content.volumes.Perm desired.content.volumes →
        mutation.outcome = .ok true ∧ mutation.object.content.volumes = desired.content.volumes ∧
          mutation.object = existing.withContent (existing.content.setPodSpec
            { existing.content.podSpecOrDefault with volumes := desired.content.podSpecOrDefault.volumes })) := by
  intro mutation
  rw [← sortedVolumes_eq_iff distinct]
  by_cases same : existing.content.sortedVolumes = desired.content.sortedVolumes
  · have kept : mutation = .done (.keep existing) := volumes_mutate_of_same same
    rw [kept]
    exact ⟨iff_of_true ⟨rfl, rfl⟩ same, fun different => absurd same different⟩
  · have replaced := volumes_mutate_of_ne same
    have reported : mutation.outcome = .ok true := congrArg Mutation.outcome replaced
    have left := congrArg Mutation.object replaced
    refine ⟨iff_of_false ?_ same, fun _ => ⟨reported, ?_, left⟩⟩
    · rintro ⟨unreported, -⟩
      rw [reported] at unreported
      cases unreported
    · exact congrArg (·.content.volumes) left

/-- A volume with this medium. -/
def scratch (name medium : String) : Volume := { name, emptyDir := some { medium := some medium } }

def withVolumes (volumes : List Volume) : Object Deployment := ofPods { containers := [], volumes := some volumes }

/-- Two volumes that have changed places are left alone. A repeated one, of which the second is as desired, is not. -/
theorem volumes_follow_up_to_order_of_scratch :
    let desired := withVolumes [scratch "cache" "Memory", scratch "tmp" ""]
    let swapped := withVolumes [scratch "tmp" "", scratch "cache" "Memory"]
    let repeated := withVolumes [scratch "cache" "", scratch "cache" "Memory", scratch "tmp" ""]
    (desired.content.volumes.map (·.name)).Nodup ∧
      (Rule.volumes.mutate swapped desired).outcome = .ok false ∧
      (Rule.volumes.mutate repeated desired).outcome = .ok true ∧
      (Rule.volumes.mutate repeated desired).object.content.volumes = desired.content.volumes := by
  intro desired swapped repeated
  have distinct : (desired.content.volumes.map (·.name)).Nodup := by decide
  have reordered : swapped.content.volumes.Perm desired.content.volumes := List.Perm.swap ..
  have more : ¬ repeated.content.volumes.Perm desired.content.volumes := fun reordered => by
    cases reordered.length_eq
  have follows := (@volumes_follow_up_to_order repeated desired distinct).2 more
  exact ⟨distinct, ((volumes_follow_up_to_order distinct).1.mpr reordered).1, follows.1, follows.2.1⟩

end Reconciliation.Deployment
