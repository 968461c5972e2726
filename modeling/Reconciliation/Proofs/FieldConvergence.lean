import Reconciliation.Proofs.GenericDeployment
import Reconciliation.Proofs.PullSecrets
import Reconciliation.Proofs.DeploymentVolumes

/-! # Rules for whole fields converge at once

Most rules govern a field as a whole, and one application of such a rule is enough. If it is refused, the object is
untouched. Otherwise the field is in line with the desired one, and a second application reports no change and leaves
the very object that the first one has left, also where that one created absent structures without a report.

The other rules govern parts of a field, such as the items of some names, or the resources of one container.
-/

namespace Reconciliation

namespace Deployment

/-- The rules that govern a field as a whole. -/
def Rule.IsFullField : Rule → Prop
  | containerResources | namedVolumes _ | namedContainerVolumeMounts _ | namedInitContainerVolumeMounts _ | envVar _ =>
    False
  | _ => True

theorem Rule.isLawful_of_isFullField {rule : Rule} (full : rule.IsFullField) : rule.IsLawful := by
  cases rule with
  | containerResources | namedVolumes _ | namedContainerVolumeMounts _ | namedInitContainerVolumeMounts _ | envVar _ =>
    exact full.elim
  | _ => trivial

/-- What a rule for a whole field governs is as desired. Maps contain the desired entries, an absent number of pods is
no wish, init containers may be more than those whose images are desired, mounts are only compared if there are as many
containers as desired, and volumes may be in another order. -/
def Rule.InLine : Rule → Object Deployment → Object Deployment → Prop
  | annotations, existing, desired => Merge.Within desired.metadata.annotations existing.metadata.annotations
  | replicas, existing, desired =>
      ∀ wanted, desired.content.spec.bind (·.replicas) = some wanted →
        existing.content.specOrDefault.replicas = some wanted
  | affinity, existing, desired =>
      existing.content.podSpecOrDefault.affinity = desired.content.podSpecOrDefault.affinity
  | tolerations, existing, desired =>
      existing.content.podSpecOrDefault.tolerations = desired.content.podSpecOrDefault.tolerations
  | priorityClass, existing, desired =>
      existing.content.podSpecOrDefault.priorityClassName = desired.content.podSpecOrDefault.priorityClassName
  | topologySpreadConstraints, existing, desired =>
      existing.content.podSpecOrDefault.topologySpreadConstraints =
        desired.content.podSpecOrDefault.topologySpreadConstraints
  | podTemplateLabels, existing, desired =>
      Merge.Within desired.content.podMetadata.labels existing.content.podMetadata.labels
  | podTemplateAnnotations, existing, desired =>
      Merge.Within desired.content.podMetadata.annotations existing.content.podMetadata.annotations
  | strategy, existing, desired => existing.content.specOrDefault.strategy = desired.content.specOrDefault.strategy
  | args, existing, desired => existing.content.containers.map (·.args) = desired.content.containers.map (·.args)
  | probes, existing, desired =>
      existing.content.containers.map (fun container => (container.livenessProbe, container.readinessProbe)) =
        desired.content.containers.map fun container => (container.livenessProbe, container.readinessProbe)
  | containerImages, existing, desired =>
      existing.content.containers.map (·.image) = desired.content.containers.map (·.image)
  | initContainerImages, existing, desired =>
      ∀ (index : Nat) (wanted : Container), desired.content.initContainers[index]? = some wanted →
        ∃ container, existing.content.initContainers[index]? = some container ∧ container.image = wanted.image
  | volumes, existing, desired => existing.content.volumes.Perm desired.content.volumes
  | containerVolumeMounts, existing, desired =>
      existing.content.containers.length = desired.content.containers.length →
        existing.content.containers.map (·.volumeMounts) = desired.content.containers.map (·.volumeMounts)
  | podInitContainers, existing, desired => existing.content.initContainers = desired.content.initContainers
  | initContainerVolumeMounts, existing, desired =>
      existing.content.initContainers.length = desired.content.initContainers.length →
        existing.content.initContainers.map (·.volumeMounts) = desired.content.initContainers.map (·.volumeMounts)
  | removeDuplicateEnvVars, existing, _ => ∀ container ∈ existing.content.containers, DistinctEnvVars container
  | containerResources, _, _ | namedVolumes _, _, _ | namedContainerVolumeMounts _, _, _
  | namedInitContainerVolumeMounts _, _, _ | envVar _, _, _ => False

section Satisfied

variable {existing desired : Deployment}

theorem replicas_of_unchanged (unchanged : (followReplicas existing desired).changed = false) {wanted : Int32}
    (given : desired.spec.bind (·.replicas) = some wanted) : existing.specOrDefault.replicas = some wanted := by
  simpa [followReplicas, given] using unchanged

theorem strategy_of_unchanged (unchanged : (followStrategy existing desired).changed = false) :
    existing.specOrDefault.strategy = desired.specOrDefault.strategy := by
  have follows : existing.specOrDefault.strategy = desired.spec.bind (·.strategy) := by
    simpa [followStrategy] using unchanged
  rw [follows, specOrDefault]
  cases desired.spec <;> rfl

theorem volumes_of_unchanged (unchanged : (followVolumes existing desired).changed = false) :
    existing.volumes.Perm desired.volumes := by
  rw [followVolumes] at unchanged
  split at unchanged
  · next same => exact perm_of_sortedVolumes_eq same
  · cases unchanged

variable {γ : Type} {edit : Container → Container → Edit Container} {f : Container → γ}
  (follows : ∀ current wanted, (edit current wanted).changed = false → f current = f wanted)

include follows

theorem map_containers_of_unchanged (unchanged : (editEqualContainers edit existing desired).changed = false)
    (counts : existing.containers.length = desired.containers.length) :
    existing.containers.map f = desired.containers.map f := by
  rw [editEqualContainers, if_pos counts] at unchanged
  exact Edit.map_eq_of_unchanged_pairs follows counts unchanged

theorem map_initContainers_of_unchanged (unchanged : (editEqualInitContainers edit existing desired).changed = false)
    (counts : existing.initContainers.length = desired.initContainers.length) :
    existing.initContainers.map f = desired.initContainers.map f := by
  rw [editEqualInitContainers, if_pos counts, changed_editInitContainers] at unchanged
  exact Edit.map_eq_of_unchanged_pairs follows counts unchanged

end Satisfied

section Creation

variable {existing desired : Deployment} {edit : Container → Container → Edit Container}

/-- Where metadata of pods are desired, there are some after merging. -/
theorem isSome_podMetadata_of_mergePodMetadata {get : ObjectMeta → Option StringMap}
    {set : Option StringMap → ObjectMeta → ObjectMeta}
    (described : (desired.template?.bind (·.metadata)).isSome = true) :
    ((mergePodMetadata get set existing desired).value.template?.bind (·.metadata)).isSome = true := by
  obtain ⟨metadata, given⟩ := Option.isSome_iff_exists.mp described
  simp only [mergePodMetadata, given]
  rfl

/-- To pair containers creates the specification of the pods, unless it is refused. -/
theorem podSpec_or_same_of_pairContainers {existing desired : Object Deployment} :
    (mutateUnlessRefused (pairContainers edit) existing desired).object.content.podSpec?.isSome = true ∨
      (mutateUnlessRefused (pairContainers edit) existing desired).object = existing := by
  simp only [mutateUnlessRefused, pairContainers]
  split
  · next after edited =>
    split at edited
    · cases edited
      exact .inl rfl
    · cases edited
  · exact .inr rfl

/-- To edit containers creates the specification of the pods, unless there are more or fewer than desired. -/
theorem podSpec_or_same_of_editEqualContainers :
    (editEqualContainers edit existing desired).value.podSpec?.isSome = true ∨
      (editEqualContainers edit existing desired).value = existing := by
  rw [editEqualContainers]
  split
  · exact .inl rfl
  · exact .inr rfl

theorem podSpec_or_same_of_editEqualInitContainers :
    (editEqualInitContainers edit existing desired).value.podSpec?.isSome = true ∨
      (editEqualInitContainers edit existing desired).value = existing := by
  rw [editEqualInitContainers, editInitContainers]
  split
  · split <;> exact .inl rfl
  · exact .inr rfl

theorem podSpec_or_same_of_followEnvVar {name : String} :
    (followEnvVar name existing desired).value.podSpec?.isSome = true ∨
      (followEnvVar name existing desired).value = existing := by
  rw [followEnvVar]
  split
  · exact .inl rfl
  · exact .inr rfl

end Creation

section Rules

variable {rule : Rule} {existing desired : Object Deployment}

/-- A rule for a whole field has no work only if the field is as desired. -/
theorem Rule.inLine_of_quiet (full : rule.IsFullField) (quiet : rule.mutate.Quiet desired existing) :
    rule.InLine existing desired := by
  cases rule with
  | containerResources | namedVolumes _ | namedContainerVolumeMounts _ | namedInitContainerVolumeMounts _ | envVar _ =>
    exact full.elim
  | annotations => exact Merge.changed_merge_eq_false_iff.mp (Except.ok.inj quiet)
  | replicas => exact fun _ given => replicas_of_unchanged (Mutate.changed_of_quiet quiet) given
  | affinity | tolerations | priorityClass | topologySpreadConstraints =>
    exact podField_of_unchanged (Mutate.changed_of_quiet quiet)
  | podTemplateLabels | podTemplateAnnotations => exact podMetadata_of_unchanged rfl (Mutate.changed_of_quiet quiet)
  | strategy => exact strategy_of_unchanged (Mutate.changed_of_quiet quiet)
  | args => exact map_containers_of_quiet (fun _ _ same => by simpa [editArgs] using same) quiet
  | probes => exact map_containers_of_quiet (fun _ _ same => by simpa [editProbes] using same) quiet
  | containerImages => exact map_containers_of_quiet (fun _ _ same => by simpa [editImage] using same) quiet
  | initContainerImages => exact fun _ _ listed => image_of_quiet_initContainerImages quiet listed
  | volumes => exact volumes_of_unchanged (Mutate.changed_of_quiet quiet)
  | containerVolumeMounts =>
    exact map_containers_of_unchanged (fun _ _ same => by simpa [editVolumeMounts] using same)
      (Mutate.changed_of_quiet quiet)
  | podInitContainers => exact quiet_podInitContainers_iff.mp quiet
  | initContainerVolumeMounts =>
    exact map_initContainers_of_unchanged (fun _ _ same => by simpa [editVolumeMounts] using same)
      (Mutate.changed_of_quiet quiet)
  | removeDuplicateEnvVars =>
    intro container within
    have still := changed_editEachContainer_eq_false_iff.mp (Except.ok.inj quiet)
    exact changed_dropRepeatedEnvVars_eq_false_iff.mp (still container within)

/-- A rule leaves what it creates without a report, or it leaves the deployment as it is. -/
theorem Rule.finds_or_same (rule : Rule) (existing desired : Object Deployment) :
    rule.Finds (rule.mutate existing desired).object.content desired.content ∨
      (rule.mutate existing desired).object = existing := by
  cases rule with
  | podTemplateLabels | podTemplateAnnotations => exact .inl isSome_podMetadata_of_mergePodMetadata
  | strategy | namedVolumes names => exact .inl rfl
  | args | probes | containerImages => exact podSpec_or_same_of_pairContainers.imp_left fun present _ => present
  | containerVolumeMounts | namedContainerVolumeMounts names =>
    exact podSpec_or_same_of_editEqualContainers.imp (fun present _ => present) (congrArg existing.withContent)
  | initContainerVolumeMounts | namedInitContainerVolumeMounts names =>
    exact podSpec_or_same_of_editEqualInitContainers.imp (fun present _ => present) (congrArg existing.withContent)
  | envVar name =>
    exact podSpec_or_same_of_followEnvVar.imp (fun present _ => present) (congrArg existing.withContent)
  | _ => exact .inl trivial

/-- A refusal leaves the deployment as it is. -/
theorem Rule.object_of_error {failure : Failure} (refused : (rule.mutate existing desired).outcome = .error failure) :
    (rule.mutate existing desired).object = existing := by
  have unlessRefused {edit : Deployment → Deployment → Except String (Edit Deployment)}
      (refused : (mutateUnlessRefused edit existing desired).outcome = .error failure) :
      (mutateUnlessRefused edit existing desired).object = existing := by
    simp only [mutateUnlessRefused] at refused ⊢
    split at refused
    · cases refused
    · rfl
  cases rule with
  | containerResources | args | probes | containerImages => exact unlessRefused refused
  | _ => cases refused

end Rules

end Deployment

theorem ConfigMap.Rule.lawful_of_ne {rule : Rule} (whole : rule ≠ .dataDefaults) : rule.mutate.Lawful := by
  intro desired
  cases rule with
  | dataDefaults => exact absurd rfl whole
  | data | immutable => exact Mutate.settlesAt_ofContentEdit fun existing => by simp [followData, followImmutable]

theorem Role.Rule.lawful (rule : Rule) : rule.mutate.Lawful := by
  intro desired
  cases rule with
  | rules => exact Mutate.settlesAt_ofContentEdit fun existing => by simp [followRules]

theorem RoleBinding.Rule.lawful (rule : Rule) : rule.mutate.Lawful := by
  intro desired
  cases rule with
  | subjects | roleRef =>
    exact Mutate.settlesAt_ofContentEdit fun existing => by simp [followSubjects, followRoleRef]

theorem HorizontalPodAutoscaler.Rule.lawful (rule : Rule) : rule.mutate.Lawful := by
  intro desired
  cases rule with
  | spec => exact Mutate.settlesAt_ofContentEdit fun existing => by simp [followSpec]

/-- What a rule for a whole field governs is as desired. -/
def ConfigMap.Rule.InLine : Rule → ConfigMap → ConfigMap → Prop
  | data, existing, desired => existing.data = desired.data
  | immutable, existing, desired => existing.immutable = desired.immutable
  | dataDefaults, _, _ => False

theorem ConfigMap.Rule.inLine_of_quiet {rule : Rule} {existing desired : Object ConfigMap}
    (whole : rule ≠ .dataDefaults) (quiet : rule.mutate.Quiet desired existing) :
    rule.InLine existing.content desired.content := by
  cases rule with
  | dataDefaults => exact absurd rfl whole
  | data | immutable => exact Edit.changed_replace_eq_false_iff.mp (Mutate.changed_of_quiet quiet)

/-- What a rule governs is as desired. -/
def Service.Rule.InLine : Rule → Service → Service → Prop
  | ports, existing, desired => existing.specOrDefault.ports = desired.specOrDefault.ports
  | selector, existing, desired => existing.specOrDefault.selector = desired.specOrDefault.selector

/-- What a rule governs is as desired. -/
def RoleBinding.Rule.InLine : Rule → RoleBinding → RoleBinding → Prop
  | subjects, existing, desired => existing.subjects = desired.subjects
  | roleRef, existing, desired => existing.roleRef = desired.roleRef

/-- Bounds and selector are as desired. -/
structure PodDisruptionBudget.InLine (existing desired : PodDisruptionBudgetSpec) : Prop where
  minAvailable : existing.minAvailable = desired.minAvailable
  maxUnavailable : existing.maxUnavailable = desired.maxUnavailable
  selector : existing.selector = desired.selector

theorem PodDisruptionBudget.Rule.inLine_of_quiet (rule : Rule) {existing desired : Object PodDisruptionBudget}
    (quiet : rule.mutate.Quiet desired existing) :
    InLine (existing.content.spec.getD default) (desired.content.spec.getD default) := by
  cases rule with
  | spec =>
    have same := Mutate.changed_of_quiet quiet
    simp only [followSpec, Edit.keep_bind, Edit.changed_map, Edit.changed_bind, Edit.value_bind, Edit.value_map,
      Bool.or_eq_false_iff, Edit.changed_replace_eq_false_iff] at same
    exact ⟨same.1.1, same.1.2, same.2⟩

/-- Bounds and measurements are as desired. -/
structure HorizontalPodAutoscaler.InLine (existing desired : HorizontalPodAutoscalerSpec) : Prop where
  minReplicas : existing.minReplicas = desired.minReplicas
  maxReplicas : existing.maxReplicas = desired.maxReplicas
  metrics : existing.metrics = desired.metrics

theorem HorizontalPodAutoscaler.Rule.inLine_of_quiet (rule : Rule) {existing desired : Object HorizontalPodAutoscaler}
    (quiet : rule.mutate.Quiet desired existing) :
    InLine (existing.content.spec.getD default) (desired.content.spec.getD default) := by
  cases rule with
  | spec =>
    have same := Mutate.changed_of_quiet quiet
    simp only [followSpec, Edit.keep_bind, Edit.changed_map, Edit.changed_bind, Edit.value_bind, Edit.value_map,
      Bool.or_eq_false_iff, Edit.changed_replace_eq_false_iff] at same
    exact ⟨same.1.1, same.1.2, same.2⟩

namespace ServiceAccount

/-- The desired pull secrets are there, and all others have been added by the platform. -/
structure InLine (existing desired : Object ServiceAccount) : Prop where
  desired_listed : ∀ reference ∈ pullSecrets desired, reference ∈ pullSecrets existing
  others_injected : ∀ reference ∈ pullSecrets existing,
    reference ∈ pullSecrets desired ∨ isInjected existing.nameAny reference = true

theorem inLine_of_unchanged {existing desired : Object ServiceAccount}
    (unchanged : (followPullSecrets existing desired).changed = false) : InLine existing desired := by
  have same := changed_followPullSecrets_eq_false_iff.mp unchanged
  have listed (reference : LocalObjectReference) : reference ∈ pullSecrets existing ↔
      reference ∈ pullSecrets desired ∨ reference ∈ (pullSecrets existing).filter (isInjected existing.nameAny) :=
    same.mem_iff.trans mem_foldl_addByName_iff
  refine ⟨fun reference wanted => (listed reference).mpr (.inl wanted), fun reference within => ?_⟩
  exact ((listed reference).mp within).imp_right fun chosen => (List.mem_filter.mp chosen).2

end ServiceAccount

namespace Kind

/-- The rules of a kind that govern a field as a whole. The defaults of a configuration, the values of secrets and the
tags of image streams are parts. -/
def IsFullField : (kind : Kind) → kind.Rule → Prop
  | configMap, rule => rule ≠ ConfigMap.Rule.dataDefaults
  | deployment, rule => Deployment.Rule.IsFullField rule
  | imageStream, _ | secret, _ => False
  | _, _ => True

variable {kind : Kind} {rule : kind.Rule} {existing desired : kind.Object}

theorem lawful_of_isFullField (full : kind.IsFullField rule) : (kind.applyRule rule).Lawful := by
  cases kind with
  | configMap => exact ConfigMap.Rule.lawful_of_ne full
  | deployment => exact Deployment.Rule.lawful_of_isLawful (Deployment.Rule.isLawful_of_isFullField full)
  | imageStream | secret => exact full.elim
  | horizontalPodAutoscaler => exact HorizontalPodAutoscaler.Rule.lawful rule
  | podDisruptionBudget => exact PodDisruptionBudget.Rule.lawful rule
  | role => exact Role.Rule.lawful rule
  | roleBinding => exact RoleBinding.Rule.lawful rule
  | service => exact Service.Rule.lawful rule
  | serviceAccount => exact ServiceAccount.Rule.lawful rule
  | grafanaDashboard | podMonitor | prometheusRule | serviceMonitor => exact SpecRule.lawful rule
  | appStack | persistentVolumeClaim | route => exact rule.elim

/-- A rule leaves what it creates without a report, or it leaves the object as it is. -/
theorem finds_or_same (kind : Kind) (rule : kind.Rule) (existing desired : kind.Object) :
    kind.Finds rule (kind.applyRule rule existing desired).object.content desired.content ∨
      (kind.applyRule rule existing desired).object = existing := by
  cases kind with
  | deployment => exact Deployment.Rule.finds_or_same rule existing desired
  | horizontalPodAutoscaler | podDisruptionBudget | service =>
    cases rule <;> exact .inl rfl
  | _ => exact .inl trivial

/-- A refused rule leaves the object as it is. -/
theorem object_of_error {failure : Failure}
    (refused : (kind.applyRule rule existing desired).outcome = .error failure) :
    (kind.applyRule rule existing desired).object = existing := by
  cases kind with
  | deployment => exact Deployment.Rule.object_of_error refused
  | appStack | persistentVolumeClaim | route => exact rule.elim
  | _ => cases rule <;> cases refused

/-- What a rule for a whole field governs is as desired. -/
def InLine : (kind : Kind) → kind.Rule → kind.Object → kind.Object → Prop
  | configMap, rule, existing, desired => ConfigMap.Rule.InLine rule existing.content desired.content
  | deployment, rule, existing, desired => Deployment.Rule.InLine rule existing desired
  | horizontalPodAutoscaler, _, existing, desired =>
      HorizontalPodAutoscaler.InLine (existing.content.spec.getD default) (desired.content.spec.getD default)
  | podDisruptionBudget, _, existing, desired =>
      PodDisruptionBudget.InLine (existing.content.spec.getD default) (desired.content.spec.getD default)
  | role, _, existing, desired => existing.content.rules = desired.content.rules
  | roleBinding, rule, existing, desired => RoleBinding.Rule.InLine rule existing.content desired.content
  | service, rule, existing, desired => Service.Rule.InLine rule existing.content desired.content
  | serviceAccount, _, existing, desired => ServiceAccount.InLine existing desired
  | grafanaDashboard, _, existing, desired => existing.content = desired.content
  | podMonitor, _, existing, desired => existing.content = desired.content
  | prometheusRule, _, existing, desired => existing.content = desired.content
  | serviceMonitor, _, existing, desired => existing.content = desired.content
  | _, _, _, _ => False

/-- A rule for a whole field has no work only if the field is as desired. -/
theorem inLine_of_quiet (full : kind.IsFullField rule) (quiet : (kind.applyRule rule).Quiet desired existing) :
    kind.InLine rule existing desired := by
  cases kind with
  | configMap => exact ConfigMap.Rule.inLine_of_quiet full quiet
  | deployment => exact Deployment.Rule.inLine_of_quiet full quiet
  | horizontalPodAutoscaler => exact HorizontalPodAutoscaler.Rule.inLine_of_quiet rule quiet
  | imageStream | secret => exact full.elim
  | podDisruptionBudget => exact PodDisruptionBudget.Rule.inLine_of_quiet rule quiet
  | role =>
    cases rule with
    | rules => exact Edit.changed_replace_eq_false_iff.mp (Mutate.changed_of_quiet quiet)
  | roleBinding =>
    cases rule with
    | subjects | roleRef => exact Edit.changed_replace_eq_false_iff.mp (Mutate.changed_of_quiet quiet)
  | service =>
    cases rule with
    | ports | selector => exact Edit.changed_replace_eq_false_iff.mp (Mutate.changed_of_quiet quiet)
  | serviceAccount =>
    cases rule with
    | imagePullSecrets => exact ServiceAccount.inLine_of_unchanged (Except.ok.inj quiet)
  | grafanaDashboard | podMonitor | prometheusRule | serviceMonitor =>
    cases rule with
    | spec => exact Edit.changed_replace_eq_false_iff.mp (Mutate.changed_of_quiet quiet)
  | appStack | persistentVolumeClaim | route => exact rule.elim

end Kind

/-- One application of a rule for a whole field is enough, whatever the two objects are. If it is refused, the object
is untouched. If it succeeds, the field is as desired, and a second application reports no change and leaves the very
object that the first one has left. -/
theorem full_fields_converge {kind : Kind} {rule : kind.Rule} (full : kind.IsFullField rule)
    (existing desired : kind.Object) :
    let first := kind.applyRule rule existing desired
    let second := kind.applyRule rule first.object desired
    (∀ failure, first.outcome = .error failure → first.object = existing) ∧
      ∀ changed, first.outcome = .ok changed →
        second.outcome = .ok false ∧ second.object = first.object ∧ kind.InLine rule first.object desired := by
  intro first second
  refine ⟨fun failure refused => Kind.object_of_error refused, fun changed success => ?_⟩
  have quiet : second.outcome = .ok false := kind.lawful_of_isFullField full desired existing ⟨changed, success⟩
  refine ⟨quiet, ?_, kind.inLine_of_quiet full quiet⟩
  rcases kind.finds_or_same rule existing desired with finds | same
  · exact (kind.truthful_applyRule rule first.object desired).still finds quiet
  · -- what the first application has left as it was, the second one does too
    have again : second = first := congrArg (kind.applyRule rule · desired) same
    rw [again]

/-- A secret that nobody wants any more goes at once, and one that the platform has added stays. Arguments for a
container that is not there are refused without an effect. -/
theorem full_fields_converge_of_pull_secrets :
    let existing : Object ServiceAccount :=
      ⟨{ name := some "shop" },
        { imagePullSecrets := some [⟨"registry"⟩, ⟨"leftover"⟩, ⟨"shop-dockercfg-x7k2p"⟩] }⟩
    let desired : Object ServiceAccount := ⟨{}, { imagePullSecrets := some [⟨"mirror"⟩, ⟨"registry"⟩] }⟩
    let first := Kind.serviceAccount.applyRule .imagePullSecrets existing desired
    let second := Kind.serviceAccount.applyRule .imagePullSecrets first.object desired
    let bare := Deployment.ofPods { containers := [] }
    let refused := Kind.deployment.applyRule .args bare (Deployment.webOf "web:2")
    second.outcome = .ok false ∧ second.object = first.object ∧
      ServiceAccount.InLine first.object desired ∧ ⟨"leftover"⟩ ∉ ServiceAccount.pullSecrets first.object ∧
      (∃ failure, refused.outcome = .error failure) ∧ refused.object = bare := by
  intro existing desired first second bare refused
  obtain ⟨quiet, same, follows⟩ :=
    (@full_fields_converge .serviceAccount .imagePullSecrets trivial existing desired).2 _ rfl
  have untouched := (@full_fields_converge .deployment .args trivial bare (Deployment.webOf "web:2")).1 _ rfl
  refine ⟨quiet, same, follows, fun listed => ?_, ⟨_, rfl⟩, untouched⟩
  have called : first.object.nameAny = "shop" := by
    change (ServiceAccount.followPullSecrets existing desired).value.nameAny = "shop"
    rw [ServiceAccount.followPullSecrets_eq_ite]
    split <;> rfl
  have stranger : ServiceAccount.isInjected first.object.nameAny ⟨"leftover"⟩ = false := by
    rw [called]
    decide +kernel
  rcases follows.others_injected _ listed with wanted | injected
  · revert wanted
    decide
  · exact Bool.noConfusion (stranger.symm.trans injected)

end Reconciliation
