import Reconciliation.Proofs.DeploymentAspects
import Reconciliation.Proofs.DeploymentSettling
import Reconciliation.Proofs.EditLaws

/-! # Which rules of deployments are lawful

A rule is lawful if, whatever the two deployments are, it has nothing left to do once it has succeeded. Most
rules are. The rule for resources is not, because an infinite quantity differs from itself; those for named
items are not, because of several items of one name they remove only the first.
-/

namespace Reconciliation

namespace Deployment

section Settling

variable {desired : Object Deployment}

theorem settlesAt_mutateUnlessRefused {edit : Deployment → Deployment → Except String (Edit Deployment)}
    (again : ∀ existing after, edit existing desired.content = .ok after →
      ∃ later, edit after.value desired.content = .ok later ∧ later.changed = false) :
    (mutateUnlessRefused edit).SettlesAt desired := by
  intro existing success
  simp only [Mutate.Quiet, mutateUnlessRefused] at success ⊢
  cases edited : edit existing.content desired.content with
  | error reason =>
    obtain ⟨changed, outcome⟩ := success
    rw [edited] at outcome
    cases outcome
  | ok after =>
    obtain ⟨later, repeated, unchanged⟩ := again existing.content after edited
    have content : ((Mutation.done (after.map existing.withContent)).object).content = after.value := rfl
    simp only [content, repeated]
    exact congrArg Except.ok unchanged

variable {edit : Container → Container → Edit Container}
  (again : ∀ current wanted, (edit (edit current wanted).value wanted).changed = false)

include again

theorem settlesAt_pairContainers : (mutateUnlessRefused (pairContainers edit)).SettlesAt desired := by
  refine settlesAt_mutateUnlessRefused fun existing after edited => ?_
  simp only [pairContainers] at edited
  split at edited
  · next counts =>
    cases edited
    have kept : (editContainers edit existing desired.content).value.containers.length =
        desired.content.containers.length := (Edit.length_value_pairs ..).trans counts
    refine ⟨_, if_pos kept, ?_⟩
    exact Edit.changed_pairs_again again _ _
  · cases edited

theorem changed_editEqualContainers_again (existing desired : Deployment) :
    (editEqualContainers edit (editEqualContainers edit existing desired).value desired).changed = false := by
  by_cases counts : existing.containers.length = desired.containers.length
  · have kept : (editContainers edit existing desired).value.containers.length = desired.containers.length :=
      (Edit.length_value_pairs ..).trans counts
    simp only [editEqualContainers, if_pos counts, if_pos kept]
    exact Edit.changed_pairs_again again _ _
  · simp only [editEqualContainers, if_neg counts, Edit.value_keep, Edit.changed_keep]

theorem changed_editEqualInitContainers_again (existing desired : Deployment) :
    (editEqualInitContainers edit (editEqualInitContainers edit existing desired).value desired).changed =
      false := by
  by_cases counts : existing.initContainers.length = desired.initContainers.length
  · have edited := initContainers_editInitContainers edit existing desired
    have kept : (editInitContainers edit existing desired).value.initContainers.length =
        desired.initContainers.length := by rw [edited, Edit.length_value_pairs, counts]
    simp only [editEqualInitContainers, if_pos counts, if_pos kept]
    rw [changed_editInitContainers, edited]
    exact Edit.changed_pairs_again again _ _
  · simp only [editEqualInitContainers, if_neg counts, Edit.value_keep, Edit.changed_keep]

end Settling

theorem changed_followPodField_again {α : Type} [DecidableEq α] {field : PodField α}
    (lawful : ∀ value spec, field.get (field.set value spec) = value) (existing desired : Deployment) :
    (followPodField field (followPodField field existing desired).value desired).changed = false := by
  by_cases same : field.get existing.podSpecOrDefault = field.get desired.podSpecOrDefault
  · simp only [followPodField, if_pos same, Edit.value_keep, Edit.changed_keep]
  · have follows : field.get (existing.setPodSpec
        (field.set (field.get desired.podSpecOrDefault) existing.podSpecOrDefault)).podSpecOrDefault =
        field.get desired.podSpecOrDefault := lawful _ _
    simp only [followPodField, if_neg same, if_pos follows, Edit.changed_keep]

theorem changed_mergePodMetadata_again {get : ObjectMeta → Option StringMap}
    {set : Option StringMap → ObjectMeta → ObjectMeta} (lawful : ∀ map metadata, get (set map metadata) = map)
    (existing desired : Deployment) :
    (mergePodMetadata get set (mergePodMetadata get set existing desired).value desired).changed = false := by
  simp only [mergePodMetadata]
  split
  · rfl
  · next wanted present =>
    have merged (map : Option StringMap) :
        get (existing.setPodMetadata (set map existing.podMetadata)).podMetadata = map := lawful _ _
    simp only [Edit.value_map, Edit.changed_map, merged, Merge.merge_merge, Edit.changed_keep]

theorem changed_followReplicas_again (existing desired : Deployment) :
    (followReplicas (followReplicas existing desired).value desired).changed = false := by
  simp only [followReplicas]
  cases desired.spec.bind (·.replicas) with
  | none => rfl
  | some wanted => simp [Edit.value_map, setSpec, specOrDefault]

theorem changed_followStrategy_again (existing desired : Deployment) :
    (followStrategy (followStrategy existing desired).value desired).changed = false := by
  simp [followStrategy, setSpec, specOrDefault]

theorem changed_followInitContainerImages_again (existing desired : Deployment) :
    (followInitContainerImages (followInitContainerImages existing desired).value desired).changed = false := by
  simp only [followInitContainerImages]
  split
  · rfl
  · refine Edit.changed_pairsOrAdded_again (fun current wanted => ?_) (fun item => ?_) _ _
    · simp [editImage]
    · simp [editImage, Edit.replace_self]

/-- Init containers that are not the desired ones are replaced by these, whether they are too many, too few or others. -/
theorem followInitContainers_eq_ite (existing desired : Deployment) :
    followInitContainers existing desired =
      if existing.initContainers = desired.initContainers then .keep existing
      else ⟨existing.setInitContainers (some desired.initContainers), true⟩ := by
  rw [followInitContainers]
  split
  · rfl
  · next different =>
    have fit : (existing.initContainers.take desired.initContainers.length).length ≤ desired.initContainers.length := by
      rw [List.length_take]
      exact Nat.min_le_left ..
    refine Edit.ext ?_ ?_
    · rw [Edit.value_map, Edit.value_bind, Edit.pairsOrAdded_replace fit]
    · rw [Edit.changed_map, Edit.changed_bind, Edit.pairsOrAdded_replace fit]
      -- the cut is a change, or else it leaves all that there was
      by_cases long : desired.initContainers.length < existing.initContainers.length
      · simp [long]
      · simp [List.take_of_length_le (Nat.le_of_not_lt long), different]

/-- The init containers become the desired ones. -/
theorem initContainers_followInitContainers (existing desired : Deployment) :
    (followInitContainers existing desired).value.initContainers = desired.initContainers := by
  rw [followInitContainers_eq_ite]
  split
  · next same => exact same
  · rfl

theorem changed_followInitContainers_eq_false_iff {existing desired : Deployment} :
    (followInitContainers existing desired).changed = false ↔ existing.initContainers = desired.initContainers := by
  rw [followInitContainers_eq_ite]
  split
  · next same => exact iff_of_true rfl same
  · next different => exact iff_of_false Bool.noConfusion different

theorem changed_followVolumes_again (existing desired : Deployment) :
    (followVolumes (followVolumes existing desired).value desired).changed = false := by
  by_cases same : existing.sortedVolumes = desired.sortedVolumes
  · simp only [followVolumes, if_pos same, Edit.value_keep, Edit.changed_keep]
  · have follows : (existing.setVolumes desired.podSpecOrDefault.volumes).sortedVolumes = desired.sortedVolumes := rfl
    simp only [followVolumes, if_neg same, if_pos follows, Edit.changed_keep]

/-- What is kept of the variables has all its names new and different. -/
theorem distinct_firstOfEachName (seen : List String) (env : List EnvVar) :
    (∀ item ∈ firstOfEachName seen env, item.name ∉ seen) ∧
      ((firstOfEachName seen env).map (·.name)).Nodup := by
  induction env generalizing seen with
  | nil => simp [firstOfEachName]
  | cons first rest ih =>
    simp only [firstOfEachName, List.contains_iff_mem]
    split
    · exact ih seen
    · next fresh =>
      obtain ⟨new, distinct⟩ := ih (first.name :: seen)
      simp only [List.mem_cons, not_or] at new
      refine ⟨List.forall_mem_cons.mpr ⟨fresh, fun item kept => (new item kept).2⟩, ?_⟩
      refine List.nodup_cons.mpr ⟨fun repeated => ?_, distinct⟩
      obtain ⟨item, kept, same⟩ := List.mem_map.mp repeated
      exact (new item kept).1 same

theorem changed_dropRepeatedEnvVars_again (container : Container) :
    (dropRepeatedEnvVars (dropRepeatedEnvVars container).value).changed = false := by
  refine changed_dropRepeatedEnvVars_eq_false_iff.mpr ?_
  rw [DistinctEnvVars, dropRepeatedEnvVars]
  split
  · next absent => simp [absent]
  · next env present => exact (distinct_firstOfEachName [] env).2

/-- With finite quantities the rule for resources leaves one container that has them. -/
theorem containers_settleResources {wanted : Container}
    (own : ResourceRequirements.same wanted.resources wanted.resources = true) (existing : Deployment) :
    ∃ container, (settleResources wanted existing).value.containers = [container] ∧
      ResourceRequirements.same container.resources wanted.resources = true := by
  rcases settleResources_cases wanted existing with ⟨container, listed, same, kept⟩ | ⟨container, set, -, settled⟩
  · exact ⟨container, kept ▸ listed, same⟩
  · exact ⟨container, settled ▸ rfl, set.symm ▸ own⟩

/-- Resources that are followed without a change leave the deployment as it is. -/
theorem settleResources_of_unchanged {wanted : Container} {existing : Deployment}
    (unchanged : (settleResources wanted existing).changed = false) :
    settleResources wanted existing = .keep existing := by
  rcases settleResources_cases wanted existing with ⟨-, -, -, kept⟩ | ⟨_, -, -, settled⟩
  · exact kept
  · rw [settled] at unchanged
    cases unchanged

theorem object_of_quiet_containerResources {existing desired : Object Deployment}
    (quiet : Rule.containerResources.mutate.Quiet desired existing) :
    (Rule.containerResources.mutate existing desired).object = existing := by
  simp only [Mutate.Quiet, Rule.mutate, mutateUnlessRefused] at quiet ⊢
  split at quiet
  · next edit followed =>
    obtain ⟨wanted, -, rfl⟩ := followContainerResources_ok followed
    rw [settleResources_of_unchanged (Except.ok.inj quiet)]
    rfl
  · cases quiet

/-- Resources that are the same as themselves are followed once and for all. -/
theorem containerResources_settlesAt_of_same {desired : Object Deployment}
    (own : ∀ container ∈ desired.content.containers,
      ResourceRequirements.same container.resources container.resources = true) :
    Rule.containerResources.mutate.SettlesAt desired := by
  refine settlesAt_mutateUnlessRefused fun existing after edited => ?_
  obtain ⟨wanted, single, rfl⟩ := followContainerResources_ok edited
  obtain ⟨container, listed, same⟩ := containers_settleResources (own wanted (by simp [single])) existing
  refine ⟨settleResources wanted _, by rw [followContainerResources_eq, single], ?_⟩
  rw [changed_settleResources, listed]
  simp [same]

/-- The rules that meet the contract of mutators on all deployments. -/
def Rule.IsLawful : Rule → Prop
  | containerResources | envVar _ => False
  | namedVolumes names | namedContainerVolumeMounts names | namedInitContainerVolumeMounts names => names = []
  | _ => True

theorem Rule.lawful_of_isLawful {rule : Rule} (lawful : rule.IsLawful) : rule.mutate.Lawful := by
  intro desired
  cases rule with
  | containerResources | envVar _ => exact lawful.elim
  | annotations =>
    intro existing _
    have merged := Merge.merge_merge existing.metadata.annotations desired.metadata.annotations
    exact congrArg (fun edit : Edit (Option StringMap) => Except.ok edit.changed) merged
  | replicas => exact Mutate.settlesAt_ofContentEdit fun existing => changed_followReplicas_again existing _
  | strategy => exact Mutate.settlesAt_ofContentEdit fun existing => changed_followStrategy_again existing _
  | affinity | tolerations | priorityClass | topologySpreadConstraints =>
    exact Mutate.settlesAt_ofContentEdit fun existing => changed_followPodField_again (fun _ _ => rfl) existing _
  | podTemplateLabels | podTemplateAnnotations =>
    exact Mutate.settlesAt_ofContentEdit fun existing => changed_mergePodMetadata_again (fun _ _ => rfl) existing _
  | args | probes | containerImages =>
    refine settlesAt_pairContainers fun current wanted => ?_
    simp [editArgs, editProbes, editImage]
  | containerVolumeMounts =>
    refine Mutate.settlesAt_ofContentEdit fun existing => ?_
    exact changed_editEqualContainers_again (fun _ _ => by simp [editVolumeMounts]) existing _
  | namedContainerVolumeMounts names =>
    obtain rfl : names = [] := lawful
    refine Mutate.settlesAt_ofContentEdit fun existing => ?_
    exact changed_editEqualContainers_again (fun _ _ => rfl) existing _
  | initContainerImages =>
    exact Mutate.settlesAt_ofContentEdit fun existing => changed_followInitContainerImages_again existing _
  | podInitContainers =>
    refine Mutate.settlesAt_ofContentEdit fun existing => ?_
    exact changed_followInitContainers_eq_false_iff.mpr (initContainers_followInitContainers existing _)
  | initContainerVolumeMounts =>
    refine Mutate.settlesAt_ofContentEdit fun existing => ?_
    exact changed_editEqualInitContainers_again (fun _ _ => by simp [editVolumeMounts]) existing _
  | namedInitContainerVolumeMounts names =>
    obtain rfl : names = [] := lawful
    refine Mutate.settlesAt_ofContentEdit fun existing => ?_
    exact changed_editEqualInitContainers_again (fun _ _ => rfl) existing _
  | volumes => exact Mutate.settlesAt_ofContentEdit fun existing => changed_followVolumes_again existing _
  | namedVolumes names =>
    obtain rfl : names = [] := lawful
    exact Mutate.settlesAt_ofContentEdit fun existing => rfl
  | removeDuplicateEnvVars =>
    refine Mutate.settlesAt_ofContentEdit fun existing => ?_
    exact changed_editEachContainer_again changed_dropRepeatedEnvVars_again existing

/-- A lawful rule is refused only for the number of containers. -/
theorem Rule.succeeds_of_isLawful {rule : Rule} (lawful : rule.IsLawful) {existing desired : Object Deployment}
    (counts : existing.content.containers.length = desired.content.containers.length) :
    (rule.mutate existing desired).Succeeds := by
  have paired (edit : Container → Container → Edit Container) :
      (mutateUnlessRefused (pairContainers edit) existing desired).Succeeds := by
    simp only [mutateUnlessRefused, pairContainers, if_pos counts]
    exact ⟨_, rfl⟩
  cases rule with
  | containerResources | envVar _ => exact lawful.elim
  | args | probes | containerImages => exact paired _
  | _ => exact ⟨_, rfl⟩

/-- A lawful rule neither adds nor removes containers. -/
theorem Rule.length_containers_of_isLawful {rule : Rule} (lawful : rule.IsLawful)
    (existing desired : Object Deployment) :
    (rule.mutate existing desired).object.content.containers.length = existing.content.containers.length := by
  -- every lawful rule leaves one of these two facets alone
  have spared : .containers .args ∉ rule.writes ∨ .containers .probes ∉ rule.writes := by
    cases rule with
    | containerResources | envVar _ => exact lawful.elim
    | args => exact .inr (by simp [writes, reads])
    | _ => exact .inl (by simp [writes, reads])
  rcases spared with outside | outside
  all_goals simpa [Aspect.read] using congrArg List.length (rule.read_mutate existing desired outside)

section Unlawful

/-- A deployment of pods, with nothing else said about it. -/
def ofPods (spec : PodSpec) : Object Deployment :=
  ⟨{}, { spec := some { selector := {}, template := { spec := some spec } } }⟩

/-- Resources that are not the same as themselves are always set anew. -/
theorem not_lawful_of_differs {container : Container}
    (differs : ResourceRequirements.same container.resources container.resources = false) :
    ¬ Rule.containerResources.mutate.Lawful := by
  intro lawful
  let deployment := ofPods { containers := [container] }
  let once := settleResources container deployment.content
  have listed : deployment.content.containers = [container] := rfl
  have resources : once.value.containers.map (·.resources) = [container.resources] := by
    simp [once, settleResources_of_single listed, differs]
  have again := changed_settleResources container once.value
  simp only [resources, differs] at again
  have quiet := lawful deployment deployment ⟨_, rfl⟩
  exact Bool.noConfusion (again.symm.trans (Except.ok.inj quiet))

/-- An infinite quantity is not even the same as itself. -/
theorem not_lawful_containerResources : ¬ Rule.containerResources.mutate.Lawful := by
  let limits : StringMap := .ofList [("cpu", "1e400")]
  refine @not_lawful_of_differs { name := "web", resources := some { limits := some limits } } ?_
  decide +kernel

section Named

variable {name : String} {names : List String} (given : name ∈ names)

/-- More items of a name than one round of removal removes. -/
def surplus {α : Type} (name : String) (names : List String) (item : α) : List α :=
  List.replicate (names.count name + (names.count name + 0)) item

include given

theorem not_lawful_namedVolumes : ¬ (Rule.namedVolumes names).mutate.Lawful := by
  intro lawful
  let volume : Volume := { name }
  have quiet := lawful (ofPods { containers := [] })
    (ofPods { containers := [], volumes := some (surplus name names volume) }) ⟨_, rfl⟩
  have changed := @Edit.changed_namedEach_twice Volume _ Volume.name name names given volume rfl
  exact Bool.noConfusion (changed.symm.trans (Except.ok.inj quiet))

theorem not_lawful_namedContainerVolumeMounts : ¬ (Rule.namedContainerVolumeMounts names).mutate.Lawful := by
  intro lawful
  let mount : VolumeMount := { name, mountPath := "" }
  let container : Container := { name := "", volumeMounts := some (surplus name names mount) }
  have quiet := lawful (ofPods { containers := [{ name := "" }] }) (ofPods { containers := [container] }) ⟨_, rfl⟩
  have changed := @Edit.changed_namedEach_twice VolumeMount _ VolumeMount.name name names given mount rfl
  have unchanged := (Bool.or_eq_false_iff.mp (Except.ok.inj quiet)).1
  exact Bool.noConfusion (changed.symm.trans unchanged)

theorem not_lawful_namedInitContainerVolumeMounts :
    ¬ (Rule.namedInitContainerVolumeMounts names).mutate.Lawful := by
  intro lawful
  let mount : VolumeMount := { name, mountPath := "" }
  let container : Container := { name := "", volumeMounts := some (surplus name names mount) }
  have quiet := lawful (ofPods { containers := [], initContainers := some [{ name := "" }] })
    (ofPods { containers := [], initContainers := some [container] }) ⟨_, rfl⟩
  have changed := @Edit.changed_namedEach_twice VolumeMount _ VolumeMount.name name names given mount rfl
  have unchanged := (Bool.or_eq_false_iff.mp (Except.ok.inj quiet)).1
  exact Bool.noConfusion (changed.symm.trans unchanged)

end Named

theorem not_lawful_envVar (name : String) : ¬ (Rule.envVar name).mutate.Lawful := by
  intro lawful
  let container : Container := { name := "", env := some [{ name }, { name }] }
  have changed : (Edit.named EnvVar.name name (Edit.named EnvVar.name name container.env []).value []).changed =
      true := by
    have first : (Edit.named EnvVar.name name container.env []).value = some [{ name }] :=
      congrArg Edit.value (Edit.named_of_unwanted rfl _)
    rw [first]
    exact congrArg Edit.changed (Edit.named_of_unwanted rfl _)
  have quiet : (Except.ok (false ||
      ((Edit.named EnvVar.name name (Edit.named EnvVar.name name container.env []).value []).changed || false)) :
        Except Failure Bool) = .ok false :=
    lawful (ofPods { containers := [{ name := "" }] }) (ofPods { containers := [container] }) ⟨_, rfl⟩
  rw [changed] at quiet
  cases quiet

end Unlawful

/-- Exactly these rules are lawful. -/
theorem Rule.lawful_iff {rule : Rule} : rule.mutate.Lawful ↔ rule.IsLawful := by
  refine ⟨fun lawful => ?_, lawful_of_isLawful⟩
  have empty {names : List String} (unlawful : ∀ name ∈ names, False) : names = [] :=
    List.eq_nil_iff_forall_not_mem.mpr unlawful
  cases rule with
  | containerResources => exact not_lawful_containerResources lawful
  | envVar name => exact not_lawful_envVar name lawful
  | namedVolumes names => exact empty fun _ given => not_lawful_namedVolumes given lawful
  | namedContainerVolumeMounts names => exact empty fun _ given => not_lawful_namedContainerVolumeMounts given lawful
  | namedInitContainerVolumeMounts names =>
    exact empty fun _ given => not_lawful_namedInitContainerVolumeMounts given lawful
  | _ => trivial

end Deployment

end Reconciliation
