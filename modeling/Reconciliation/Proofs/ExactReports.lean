import Reconciliation.Proofs.DeploymentSparing
import Reconciliation.Proofs.MapUnions

/-! # Reports of the rules for deployments

What a rule reports is what has happened to the deployment, with two reservations. A rule may create an absent
specification, or that of the pods or their metadata, on its way to a field that is in order then, and is silent about
it. And resources that are not even the same as themselves are set anew every time.
-/

namespace Reconciliation

/-- A change is reported only if the object is another one than before, provided that it is clear what is wanted, and,
where what is created on the way is present, always then. A refusal reports nothing. -/
structure Mutation.Truthful {α : Type} (present definite : Prop) (existing : α) (mutation : Mutation α) : Prop where
  still : present → mutation.outcome = .ok false → mutation.object = existing
  moved : definite → mutation.outcome = .ok true → mutation.object ≠ existing

namespace Mutation.Truthful

variable {α : Type} {present definite : Prop}

theorem refused (existing : α) (failure : Failure) :
    (Mutation.refused existing failure).Truthful present definite existing :=
  ⟨fun _ => nofun, fun _ => nofun⟩

theorem done {existing : α} {edit : Edit α} (truthful : edit.Truthful present existing) :
    (Mutation.done edit).Truthful present definite existing where
  still there unchanged := truthful.still there (Except.ok.inj unchanged)
  moved _ changed := truthful.moved (Except.ok.inj changed)

theorem ofContent {existing : Object α} {edit : Edit α} (truthful : edit.Truthful present existing.content) :
    (Mutation.done (edit.map existing.withContent)).Truthful present definite existing := by
  refine done ⟨fun there unchanged => ?_, fun changed same => ?_⟩
  · exact congrArg existing.withContent (truthful.still there unchanged)
  · exact truthful.moved changed (congrArg Object.content same)

/-- If it only depends on what is wanted whether reported changes are such. -/
theorem of_still {existing : α} {mutation : Mutation α}
    (still : present → mutation.outcome = .ok false → mutation.object = existing)
    (truthful : definite → mutation.Truthful present True existing) : mutation.Truthful present definite existing :=
  ⟨still, fun clear => (truthful clear).moved trivial⟩

end Mutation.Truthful

namespace Deployment

open Edit (Truthful)

section Structures

variable {deployment : Deployment}

theorem setSpec_specOrDefault (present : deployment.spec.isSome = true) :
    deployment.setSpec deployment.specOrDefault = deployment := by
  obtain ⟨spec, status⟩ := deployment
  cases spec with
  | none => cases present
  | some spec => rfl

theorem setPodSpec_podSpecOrDefault (present : deployment.podSpec?.isSome = true) :
    deployment.setPodSpec deployment.podSpecOrDefault = deployment := by
  obtain ⟨_ | ⟨minReadySeconds, paused, deadline, replicas, history, selector, strategy, metadata, _ | spec⟩, status⟩ :=
    deployment
  · cases present
  · cases present
  · rfl

theorem setPodMetadata_podMetadata (present : (deployment.template?.bind (·.metadata)).isSome = true) :
    deployment.setPodMetadata deployment.podMetadata = deployment := by
  obtain ⟨_ | ⟨minReadySeconds, paused, deadline, replicas, history, selector, strategy, _ | metadata, spec⟩, status⟩ :=
    deployment
  · cases present
  · cases present
  · rfl

end Structures

section Containers

theorem truthful_editArgs (current wanted : Container) : (editArgs current wanted).Truthful True current :=
  .part Container.args (.replace current.args wanted.args) (fun _ => rfl) fun _ => rfl

theorem truthful_editImage (current wanted : Container) : (editImage current wanted).Truthful True current :=
  .part Container.image (.replace current.image wanted.image) (fun _ => rfl) fun _ => rfl

theorem truthful_editVolumeMounts (current wanted : Container) :
    (editVolumeMounts current wanted).Truthful True current :=
  .part Container.volumeMounts (.replace current.volumeMounts wanted.volumeMounts) (fun _ => rfl) fun _ => rfl

theorem truthful_editNamedVolumeMounts (names : List String) (current wanted : Container) :
    (editNamedVolumeMounts names current wanted).Truthful True current :=
  .part Container.volumeMounts (Edit.truthful_namedEach names) (fun _ => rfl) fun _ => rfl

theorem truthful_editEnvVar (name : String) (current wanted : Container) :
    (editEnvVar name current wanted).Truthful True current :=
  .part Container.env Edit.truthful_named (fun _ => rfl) fun _ => rfl

theorem truthful_editProbes (current wanted : Container) : (editProbes current wanted).Truthful True current where
  still _ unchanged := by
    obtain ⟨liveness, readiness⟩ := Bool.or_eq_false_iff.mp unchanged
    simp only [Edit.changed_map, Edit.changed_replace, decide_eq_false_iff_not, Classical.not_not] at liveness readiness
    simp only [editProbes, Edit.value_bind, Edit.value_map, Edit.value_replace, ← liveness, ← readiness]
  moved changed same := by
    have liveness : wanted.livenessProbe = current.livenessProbe := congrArg (·.livenessProbe) same
    have readiness : wanted.readinessProbe = current.readinessProbe := congrArg (·.readinessProbe) same
    simp [editProbes, liveness, readiness] at changed

end Containers

section Edits

variable {existing desired : Deployment}

theorem truthful_followPodField {α : Type} [DecidableEq α] {field : PodField α}
    (lawful : ∀ value spec, field.get (field.set value spec) = value) :
    (followPodField field existing desired).Truthful True existing := by
  refine .ite (fun _ => .keep existing) fun different => .of_ne fun same => different ?_
  have follows := congrArg (fun deployment => field.get deployment.podSpecOrDefault) same
  exact follows.symm.trans (lawful _ _)

theorem truthful_mergePodMetadata {get : ObjectMeta → Option StringMap}
    {set : Option StringMap → ObjectMeta → ObjectMeta} (reads : ∀ map metadata, get (set map metadata) = map)
    (back : ∀ metadata, set (get metadata) metadata = metadata) :
    (mergePodMetadata get set existing desired).Truthful
      ((desired.template?.bind (·.metadata)).isSome = true → (existing.template?.bind (·.metadata)).isSome = true)
      existing := by
  rw [mergePodMetadata]
  cases wanted : desired.template?.bind (·.metadata) with
  | none => exact (Truthful.keep existing).weaken _
  | some metadata =>
    have merged := Merge.truthful_merge (get existing.podMetadata) (get metadata)
    refine .part (fun deployment => get deployment.podMetadata) merged
      (fun map => reads map existing.podMetadata) fun present => ?_
    rw [back]
    exact setPodMetadata_podMetadata (present rfl)

theorem truthful_followReplicas : (followReplicas existing desired).Truthful True existing := by
  rw [followReplicas]
  cases desired.spec.bind (·.replicas) with
  | none => exact .keep existing
  | some wanted =>
    have part := Truthful.replace existing.specOrDefault.replicas (some wanted)
    refine ⟨fun _ unchanged => ?_, fun changed same => ?_⟩
    · have follows := part.still trivial unchanged
      have present : existing.spec.isSome = true := by
        cases spec : existing.spec with
        | none => simp [specOrDefault, spec, default, instInhabitedDeploymentSpec.default] at follows
        | some spec => rfl
      refine Eq.trans ?_ (setSpec_specOrDefault present)
      exact congrArg (fun replicas => existing.setSpec { existing.specOrDefault with replicas }) follows
    · exact part.moved changed (congrArg (·.specOrDefault.replicas) same)

theorem truthful_followStrategy :
    (followStrategy existing desired).Truthful (existing.spec.isSome = true) existing := by
  have part := Truthful.replace existing.specOrDefault.strategy (desired.spec.bind (·.strategy))
  rw [followStrategy]
  exact part.part (fun deployment : Deployment => deployment.specOrDefault.strategy) (fun _ => rfl)
    fun present => setSpec_specOrDefault present

theorem truthful_editContainers {edit : Container → Container → Edit Container}
    (truthful : ∀ current wanted, (edit current wanted).Truthful True current) :
    (editContainers edit existing desired).Truthful (existing.podSpec?.isSome = true) existing :=
  .part containers (Truthful.pairs truthful existing.containers desired.containers) (fun _ => rfl)
    setPodSpec_podSpecOrDefault

theorem truthful_editInitContainers {edit : Container → Container → Edit Container}
    (truthful : ∀ current wanted, (edit current wanted).Truthful True current) :
    (editInitContainers edit existing desired).Truthful (existing.podSpec?.isSome = true) existing := by
  rw [editInitContainers]
  split
  · next absent =>
    refine ⟨fun present _ => ?_, fun changed => Bool.noConfusion changed⟩
    rw [← absent]
    exact setPodSpec_podSpecOrDefault present
  · next current listed =>
    have own : existing.initContainers = current := by rw [initContainers, listed]; rfl
    refine .part initContainers (own ▸ Truthful.pairs truthful current desired.initContainers) (fun _ => rfl)
      fun present => ?_
    rw [own, ← listed]
    exact setPodSpec_podSpecOrDefault present

theorem truthful_followInitContainerImages : (followInitContainerImages existing desired).Truthful True existing := by
  refine .ite (fun _ => .keep existing) fun wanted => ?_
  have images := Truthful.pairsOrAdded truthful_editImage existing.initContainers desired.initContainers
  refine ⟨fun _ unchanged => ?_, fun changed same => images.moved changed (congrArg initContainers same)⟩
  -- if nothing is added there are init containers already, and so the pods are described
  have follows := images.still trivial unchanged
  rw [Edit.value_map, follows]
  cases listed : existing.podSpecOrDefault.initContainers with
  | none =>
    have nothing : existing.initContainers = [] := by rw [initContainers, listed]; rfl
    rw [nothing] at unchanged
    exact absurd (by simpa [Edit.pairsOrAdded] using unchanged) wanted
  | some current =>
    have own : existing.initContainers = current := by rw [initContainers, listed]; rfl
    rw [own, ← listed]
    refine setPodSpec_podSpecOrDefault ?_
    cases described : existing.podSpec? with
    | none => simp [podSpecOrDefault, described, default, instInhabitedPodSpec.default] at listed
    | some spec => rfl

theorem truthful_followVolumes : (followVolumes existing desired).Truthful True existing :=
  .ite (fun _ => .keep existing) fun different => .of_ne fun same => different (congrArg sortedVolumes same).symm

theorem truthful_followInitContainers : (followInitContainers existing desired).Truthful True existing := by
  rw [followInitContainers_eq_ite]
  exact .ite (fun _ => .keep existing) fun different => .of_ne fun same => different (congrArg initContainers same).symm

theorem truthful_followNamedVolumes (names : List String) :
    (followNamedVolumes names existing desired).Truthful (existing.podSpec?.isSome = true) existing :=
  .part (fun deployment => deployment.podSpecOrDefault.volumes) (Edit.truthful_namedEach names) (fun _ => rfl)
    setPodSpec_podSpecOrDefault

theorem truthful_editEqualContainers {edit : Container → Container → Edit Container}
    (truthful : ∀ current wanted, (edit current wanted).Truthful True current) :
    (editEqualContainers edit existing desired).Truthful
      (existing.containers.length = desired.containers.length → existing.podSpec?.isSome = true) existing :=
  .ite (fun counts => (truthful_editContainers truthful).mono fun present => present counts) fun _ =>
    (Truthful.keep existing).weaken _

theorem truthful_editEqualInitContainers {edit : Container → Container → Edit Container}
    (truthful : ∀ current wanted, (edit current wanted).Truthful True current) :
    (editEqualInitContainers edit existing desired).Truthful
      (existing.initContainers.length = desired.initContainers.length → existing.podSpec?.isSome = true) existing :=
  .ite (fun counts => (truthful_editInitContainers truthful).mono fun present => present counts) fun _ =>
    (Truthful.keep existing).weaken _

theorem containers_editInitContainers (edit : Container → Container → Edit Container) (existing desired : Deployment) :
    (editInitContainers edit existing desired).value.containers = existing.containers := by
  rw [editInitContainers]
  split <;> rfl

theorem truthful_followEnvVar (name : String) :
    (followEnvVar name existing desired).Truthful
      (existing.containers.length = desired.containers.length ∧
        existing.initContainers.length = desired.initContainers.length → existing.podSpec?.isSome = true) existing := by
  refine .ite (fun counts => ?_) fun _ => (Truthful.keep existing).weaken _
  have inits := Truthful.pairs (truthful_editEnvVar name) existing.initContainers desired.initContainers
  have others := Truthful.pairs (truthful_editEnvVar name) existing.containers desired.containers
  have first := initContainers_editInitContainers (editEnvVar name) existing desired
  constructor
  · intro present unchanged
    obtain ⟨here, later⟩ := Bool.or_eq_false_iff.mp unchanged
    have kept := (truthful_editInitContainers (truthful_editEnvVar name)).still (present counts) here
    rw [Edit.value_bind, kept]
    rw [kept] at later
    exact (truthful_editContainers (truthful_editEnvVar name)).still (present counts) later
  · intro changed same
    -- the two lists are different parts of the deployment, so each of them is what it was
    have initsSame := (congrArg initContainers same :)
    have here : (editInitContainers (editEnvVar name) existing desired).changed = false := by
      rw [changed_editInitContainers]
      exact inits.unchanged_of_same (first.symm.trans initsSame)
    have later : (editContainers (editEnvVar name) (editInitContainers (editEnvVar name) existing desired).value
        desired).changed = false := by
      have othersSame := (congrArg containers same :)
      rw [editContainers, Edit.changed_map, containers_editInitContainers]
      refine others.unchanged_of_same (Eq.trans ?_ othersSame)
      rw [← containers_editInitContainers (editEnvVar name) existing desired]
      rfl
    rcases Bool.or_eq_true_iff.mp changed with early | late
    · exact Bool.noConfusion (early.symm.trans here)
    · exact Bool.noConfusion (late.symm.trans later)

theorem truthful_dropRepeatedEnvVars :
    (editEachContainer dropRepeatedEnvVars existing).Truthful True existing := by
  refine .of_again (editEachContainer dropRepeatedEnvVars) (fun _ unchanged => ?_)
    (changed_editEachContainer_again changed_dropRepeatedEnvVars_again existing)
  have still := changed_editEachContainer_eq_false_iff.mp unchanged
  refine congrArg Edit.value (editEachContainer_of_still fun container within => ?_)
  exact dropRepeatedEnvVars_of_distinct (changed_dropRepeatedEnvVars_eq_false_iff.mp (still container within))

theorem truthful_settleResources {wanted : Container}
    (own : ResourceRequirements.same wanted.resources wanted.resources = true) :
    (settleResources wanted existing).Truthful True existing := by
  refine .of_again (settleResources wanted) (fun _ unchanged => ?_) ?_
  · exact congrArg Edit.value (settleResources_of_unchanged unchanged)
  · obtain ⟨container, listed, same⟩ := containers_settleResources own existing
    rw [changed_settleResources, listed]
    simp [same]

end Edits

section Rules

variable {existing desired : Object Deployment}

theorem truthful_mutateUnlessRefused {present definite : Prop}
    {edit : Deployment → Deployment → Except String (Edit Deployment)}
    (truthful : ∀ after, edit existing.content desired.content = .ok after → after.Truthful present existing.content) :
    (mutateUnlessRefused edit existing desired).Truthful present definite existing := by
  rw [mutateUnlessRefused]
  split
  · next after edited => exact .ofContent (truthful after edited)
  · exact .refused existing _

theorem truthful_pairContainers {definite : Prop} {edit : Container → Container → Edit Container}
    (truthful : ∀ current wanted, (edit current wanted).Truthful True current) :
    (mutateUnlessRefused (pairContainers edit) existing desired).Truthful
      (existing.content.containers.length = desired.content.containers.length →
        existing.content.podSpec?.isSome = true) definite existing := by
  refine truthful_mutateUnlessRefused fun after edited => ?_
  simp only [pairContainers] at edited
  split at edited
  · next counts =>
    cases edited
    exact (truthful_editContainers truthful).mono fun present => present counts
  · cases edited

/-- What a rule creates without a report is there. Rules for containers create what describes the pods, and those that go
over two lists in step do so only where the lists are of one length. -/
def Rule.Finds : Rule → Deployment → Deployment → Prop
  | podTemplateLabels, existing, desired | podTemplateAnnotations, existing, desired =>
      (desired.template?.bind (·.metadata)).isSome = true → (existing.template?.bind (·.metadata)).isSome = true
  | strategy, existing, _ => existing.spec.isSome = true
  | args, existing, desired | probes, existing, desired | containerImages, existing, desired
  | containerVolumeMounts, existing, desired | namedContainerVolumeMounts _, existing, desired =>
      existing.containers.length = desired.containers.length → existing.podSpec?.isSome = true
  | initContainerVolumeMounts, existing, desired | namedInitContainerVolumeMounts _, existing, desired =>
      existing.initContainers.length = desired.initContainers.length → existing.podSpec?.isSome = true
  | envVar _, existing, desired =>
      existing.containers.length = desired.containers.length ∧
        existing.initContainers.length = desired.initContainers.length → existing.podSpec?.isSome = true
  | namedVolumes _, existing, _ => existing.podSpec?.isSome = true
  | _, _, _ => True

/-- What a rule makes of the desired deployment is clear: its resources are the same as themselves. -/
def Rule.Definite : Rule → Deployment → Prop
  | containerResources, desired =>
      ∀ container ∈ desired.containers, ResourceRequirements.same container.resources container.resources = true
  | _, _ => True

/-- The reports of rules are true. -/
theorem Rule.truthful (rule : Rule) (existing desired : Object Deployment) :
    (rule.mutate existing desired).Truthful (rule.Finds existing.content desired.content)
      (rule.Definite desired.content) existing := by
  cases rule with
  | annotations =>
    have merged := Merge.truthful_merge existing.metadata.annotations desired.metadata.annotations
    exact .done (.part (fun deployment => deployment.metadata.annotations) merged (fun _ => rfl) fun _ => rfl)
  | replicas => exact .ofContent truthful_followReplicas
  | containerResources =>
    refine .of_still (fun _ quiet => object_of_quiet_containerResources quiet) fun definite => ?_
    refine truthful_mutateUnlessRefused fun after edited => ?_
    obtain ⟨wanted, single, rfl⟩ := followContainerResources_ok edited
    exact truthful_settleResources (definite wanted (by simp [single]))
  | affinity | tolerations | priorityClass | topologySpreadConstraints =>
    exact .ofContent (truthful_followPodField fun _ _ => rfl)
  | podTemplateLabels | podTemplateAnnotations =>
    exact .ofContent (truthful_mergePodMetadata (fun _ _ => rfl) fun _ => rfl)
  | strategy => exact .ofContent truthful_followStrategy
  | args => exact truthful_pairContainers truthful_editArgs
  | probes => exact truthful_pairContainers truthful_editProbes
  | containerImages => exact truthful_pairContainers truthful_editImage
  | initContainerImages => exact .ofContent truthful_followInitContainerImages
  | volumes => exact .ofContent truthful_followVolumes
  | containerVolumeMounts => exact .ofContent (truthful_editEqualContainers truthful_editVolumeMounts)
  | podInitContainers => exact .ofContent truthful_followInitContainers
  | initContainerVolumeMounts => exact .ofContent (truthful_editEqualInitContainers truthful_editVolumeMounts)
  | removeDuplicateEnvVars => exact .ofContent truthful_dropRepeatedEnvVars
  | namedVolumes names => exact .ofContent (truthful_followNamedVolumes names)
  | namedContainerVolumeMounts names =>
    exact .ofContent (truthful_editEqualContainers (truthful_editNamedVolumeMounts names))
  | namedInitContainerVolumeMounts names =>
    exact .ofContent (truthful_editEqualInitContainers (truthful_editNamedVolumeMounts names))
  | envVar name => exact .ofContent (truthful_followEnvVar name)

end Rules

end Deployment

end Reconciliation
