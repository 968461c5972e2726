import Reconciliation.Proofs.GenericDeployment

/-! # Deployments that select their pods

The server takes only deployments that select the pods made from their own templates. No rule writes a selector, which
cannot be changed later on anyway, while the labels of the pods are merged, and the desired ones win. So a deployment
that was created with another selector goes on to select its pods exactly if no label that it selects by is desired to
have another value.
-/

namespace Reconciliation.Deployment

/-- The labels that the selector asks for are those of the pods. -/
def SelectsItsPods (deployment : Deployment) : Prop :=
  Merge.Within deployment.specOrDefault.selector.matchLabels deployment.podMetadata.labels

section Chains

variable {rules : List Rule} {existing desired : Object Deployment}

/-- The rule for the labels of pods merges in the desired ones. -/
theorem labels_mutate_podTemplateLabels (existing desired : Object Deployment) :
    (Rule.podTemplateLabels.mutate existing desired).object.content.podMetadata.labels =
      (Merge.merge existing.content.podMetadata.labels desired.content.podMetadata.labels).value := by
  change (mergePodMetadata _ _ existing.content desired.content).value.podMetadata.labels =
    (Merge.merge _ (desired.content.specOrDefault.template.metadata.getD default).labels).value
  rw [mergePodMetadata, template_metadata]
  cases desired.content.specOrDefault.template.metadata <;> rfl

/-- After a success of some rules for the deployment of a stack, the labels of the pods are the merged ones. -/
theorem labels_after_chain (part : rules.Sublist AppStack.deploymentRules) (listed : .podTemplateLabels ∈ rules)
    (success : (Mutate.chain (rules.map Rule.mutate) existing desired).Succeeds) :
    (Mutate.chain (rules.map Rule.mutate) existing desired).object.content.podMetadata.labels =
      (Merge.merge existing.content.podMetadata.labels desired.content.podMetadata.labels).value := by
  have outside : ∀ rule ∈ AppStack.deploymentRules, rule ≠ .podTemplateLabels → Aspect.podLabels ∉ rule.writes := by
    decide
  -- the labels are the old ones or the merged ones all along, and none are left to merge in at the end
  have either : (Mutate.chain (rules.map Rule.mutate) existing desired).object.content.podMetadata.labels =
        existing.content.podMetadata.labels ∨
      (Mutate.chain (rules.map Rule.mutate) existing desired).object.content.podMetadata.labels =
        (Merge.merge existing.content.podMetadata.labels desired.content.podMetadata.labels).value := by
    refine Mutate.chain_keeps (fun object : Object Deployment =>
      object.content.podMetadata.labels = existing.content.podMetadata.labels ∨ object.content.podMetadata.labels =
        (Merge.merge existing.content.podMetadata.labels desired.content.podMetadata.labels).value) ?_ (.inl rfl)
    refine List.forall_mem_map.mpr fun rule within object labels => ?_
    by_cases merges : rule = .podTemplateLabels
    · subst merges
      rw [labels_mutate_podTemplateLabels]
      rcases labels with same | merged
      · exact .inr (by rw [same])
      · exact .inr (by rw [merged, Merge.merge_merge, Edit.value_keep])
    · have kept := rule.read_mutate object desired (outside rule (part.subset within) merges)
      exact labels.imp kept.trans kept.trans
  rcases either with same | merged
  · have quiet := AppStack.quiet_after_deploymentRules part success listed nofun
    have within := podMetadata_of_unchanged rfl (Mutate.changed_of_quiet quiet)
    rw [same] at within ⊢
    rw [Merge.merge_eq_keep_iff.mpr within, Edit.value_keep]
  · exact merged

end Chains

/-- A mutator of deployments that succeeds leaves the selector and merges the labels of the pods. -/
theorem selects_its_pods_iff {mutator : Mutator .deployment}
    (listed : mutator ∈ [Mutator.genericDeployment, AppStack.deploymentMutator]) {existing desired : Object Deployment}
    (success : (mutator.mutate existing desired).Succeeds) (valid : existing.content.SelectsItsPods) :
    let left := (mutator.mutate existing desired).object.content
    left.specOrDefault.selector = existing.content.specOrDefault.selector ∧
      (left.SelectsItsPods ↔ ∀ key value other,
        Merge.lookup? existing.content.specOrDefault.selector.matchLabels key = some value →
        Merge.lookup? desired.content.podMetadata.labels key = some other → other = value) ∧
      (desired.content.SelectsItsPods →
        desired.content.specOrDefault.selector = existing.content.specOrDefault.selector → left.SelectsItsPods) := by
  obtain ⟨rules, part, labelled, mutates⟩ : ∃ rules : List Rule, rules.Sublist AppStack.deploymentRules ∧
      .podTemplateLabels ∈ rules ∧ mutator.mutate = Mutate.chain (rules.map Rule.mutate) := by
    rcases List.mem_cons.mp listed with rfl | last
    · exact ⟨genericRules, genericRules_sublist, by decide, mutate_genericDeployment⟩
    · obtain rfl := List.mem_singleton.mp last
      exact ⟨AppStack.deploymentRules, .refl _, by decide, AppStack.mutate_deploymentMutator⟩
  intro left
  rw [mutates] at success
  have selector : left.specOrDefault.selector = existing.content.specOrDefault.selector := by
    simp only [left, mutates, selector_chain]
  have labels : left.podMetadata.labels =
      (Merge.merge existing.content.podMetadata.labels desired.content.podMetadata.labels).value := by
    simp only [left, mutates, labels_after_chain part labelled success]
  have selects : left.SelectsItsPods ↔ ∀ key value other,
      Merge.lookup? existing.content.specOrDefault.selector.matchLabels key = some value →
      Merge.lookup? desired.content.podMetadata.labels key = some other → other = value := by
    rw [SelectsItsPods, selector, labels]
    exact Merge.within_merge_iff valid
  refine ⟨selector, selects, fun desiredSelects same => selects.mpr fun key value other selected labelled => ?_⟩
  rw [← same] at selected
  exact Option.some.inj (labelled.symm.trans (desiredSelects key value selected))

/-- A deployment of one container whose pods have the one label by which they are selected. -/
def labelled (app : String) : Object Deployment :=
  ⟨{},
    { spec := some
        { selector := { matchLabels := some (.ofList [("app", app)]) }
          template :=
            { metadata := some { labels := some (.ofList [("app", app)]) }
              spec := some { containers := [{ name := "web" }] } } } }⟩

/-- A deployment that is selected by the same label as desired goes on to select its pods. -/
theorem selects_its_pods_iff_of_same_label :
    ((labelled "a").content.SelectsItsPods ∧
      (AppStack.deploymentMutator.mutate (labelled "a") (labelled "a")).Succeeds) ∧
      (AppStack.deploymentMutator.mutate (labelled "a") (labelled "a")).object.content.SelectsItsPods := by
  have success : (AppStack.deploymentMutator.mutate (labelled "a") (labelled "a")).Succeeds := ⟨false, by rfl⟩
  obtain ⟨-, -, same⟩ := selects_its_pods_iff (.tail _ (.head _)) success (.refl _)
  exact ⟨⟨.refl _, success⟩, same (.refl _) rfl⟩

/-- A deployment that is selected by another label than desired does not: both are valid, and what is left is not. -/
theorem not_selects_its_pods :
    (labelled "a").content.SelectsItsPods ∧ (labelled "b").content.SelectsItsPods ∧
      ∀ mutator ∈ [Mutator.genericDeployment, AppStack.deploymentMutator],
        (mutator.mutate (labelled "a") (labelled "b")).Succeeds ∧
          ¬ (mutator.mutate (labelled "a") (labelled "b")).object.content.SelectsItsPods := by
  refine ⟨.refl _, .refl _,
    List.forall_mem_cons.mpr ⟨⟨⟨true, rfl⟩, ?_⟩, List.forall_mem_singleton.mpr ⟨⟨true, rfl⟩, ?_⟩⟩⟩
  · intro selects
    exact absurd (selects "app" "a" rfl) (by decide +kernel)
  · intro selects
    exact absurd (selects "app" "a" rfl) (by decide +kernel)

end Reconciliation.Deployment
