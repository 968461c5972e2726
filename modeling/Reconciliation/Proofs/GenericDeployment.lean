import Reconciliation.Proofs.DeploymentFrames
import Reconciliation.Proofs.MutatorReports
import Reconciliation.Proofs.StackSettling

/-! # What the rules for most deployments do together

The chain of the rules for most deployments is refused exactly if not exactly one container is desired, and then it
has at most merged annotations. Otherwise it succeeds whatever there is, and leaves one container: each rule finds its
own part as desired at the end, and what none of them governs is as it was.
-/

namespace Reconciliation

namespace Edit

variable {α β γ : Type}

/-- Pairs that are edited without a change are alike in what the edit is about. -/
theorem map_eq_of_unchanged_pairs {edit : α → β → Edit α} {f : α → γ} {g : β → γ}
    (follows : ∀ current wanted, (edit current wanted).changed = false → f current = g wanted) {items : List α}
    {wanted : List β} (counts : items.length = wanted.length) (unchanged : (pairs edit items wanted).changed = false) :
    items.map f = wanted.map g := by
  induction items generalizing wanted with
  | nil =>
    obtain rfl := List.length_eq_zero_iff.mp counts.symm
    rfl
  | cons item rest ih =>
    cases wanted with
    | nil => cases counts
    | cons goal goals =>
      obtain ⟨here, later⟩ := Bool.or_eq_false_iff.mp unchanged
      exact congr (congrArg _ (follows item goal here)) (ih (Nat.succ.inj counts) later)

/-- If nothing is changed or added, there is an item for each wanted one, which is like it in what the edit is about. -/
theorem getElem?_of_unchanged_pairsOrAdded {edit : α → α → Edit α} {f : α → γ}
    (follows : ∀ current wanted, (edit current wanted).changed = false → f current = f wanted) {items wanted : List α}
    (unchanged : (pairsOrAdded edit items wanted).changed = false) {index : Nat} {goal : α}
    (listed : wanted[index]? = some goal) : ∃ item, items[index]? = some item ∧ f item = f goal := by
  induction items generalizing wanted index with
  | nil =>
    cases wanted with
    | nil => cases listed
    | cons first goals => cases unchanged
  | cons item rest ih =>
    cases wanted with
    | nil => cases listed
    | cons first goals =>
      obtain ⟨here, later⟩ := Bool.or_eq_false_iff.mp unchanged
      cases index with
      | zero =>
        obtain rfl := Option.some.inj listed
        exact ⟨item, rfl, follows item first here⟩
      | succ index => exact ih later listed

theorem value_pairsOrAdded_nil (edit : α → α → Edit α) (items : List α) :
    (pairsOrAdded edit items []).value = items := by
  cases items <;> rfl

/-- Items beyond the wanted ones are kept. -/
theorem drop_value_pairsOrAdded (edit : α → α → Edit α) (items wanted : List α) :
    (pairsOrAdded edit items wanted).value.drop wanted.length = items.drop wanted.length := by
  induction items generalizing wanted with
  | nil =>
    cases wanted with
    | nil => rfl
    | cons goal goals => simp [pairsOrAdded]
  | cons item rest ih =>
    cases wanted with
    | nil => rfl
    | cons goal goals => exact ih goals

end Edit

namespace Deployment

theorem mutate_genericDeployment :
    Mutator.genericDeployment.mutate = Mutate.chain (genericRules.map Rule.mutate) := by
  rw [Mutator.genericDeployment, Mutator.mutate_chain, List.map_map]
  rfl

theorem genericRules_sublist : genericRules.Sublist AppStack.deploymentRules := List.sublist_append_left _ _

/-- The rules that come after those for annotations and resources. -/
def laterRules : List Rule := genericRules.drop 2

theorem isLawful_of_laterRules : ∀ rule ∈ laterRules, rule.IsLawful := by
  intro rule listed
  have other : rule ≠ .containerResources := by
    rintro rfl
    exact absurd listed (by decide)
  exact (AppStack.isLawful_of_deploymentRules rule (genericRules_sublist.subset (List.mem_of_mem_drop listed)) other).1

section Resources

variable {existing desired : Object Deployment}

/-- The one desired container gives the one that is left its resources, or the same ones; the rest of a single existing
container stays. -/
theorem containers_of_settleResources (wanted : Container) (existing : Deployment) :
    ∃ container, (settleResources wanted existing).value.containers = [container] ∧
      (container.resources = wanted.resources ∨
        ResourceRequirements.same container.resources wanted.resources = true) ∧
      ∀ before, existing.containers = [before] → container = { before with resources := container.resources } := by
  rcases settleResources_cases wanted existing with ⟨container, listed, same, kept⟩ | ⟨container, set, stays, settled⟩
  · refine ⟨container, kept ▸ listed, .inr same, fun before single => ?_⟩
    rw [List.singleton_inj.mp (listed.symm.trans single)]
  · refine ⟨container, settled ▸ rfl, .inl set, fun before single => ?_⟩
    rw [set]
    exact stays before single

end Resources

section Chain

variable {existing desired : Object Deployment}

/-- What the rules for annotations and resources leave. -/
def afterResources (existing desired : Object Deployment) : Object Deployment :=
  (Rule.containerResources.mutate (followAnnotations existing desired).value desired).object

/-- A chain keeps what none of its rules writes. -/
theorem read_chain {rules : List Rule} {aspect : Aspect} (outside : ∀ rule ∈ rules, aspect ∉ rule.writes) :
    aspect.read (Mutate.chain (rules.map Rule.mutate) existing desired).object = aspect.read existing := by
  refine Mutate.chain_keeps (fun object => aspect.read object = aspect.read existing) ?_ rfl
  refine List.forall_mem_map.mpr fun rule listed object kept => ?_
  exact (rule.read_mutate object desired (outside rule listed)).trans kept

theorem rest_chain {rules : List Rule} (others : ∀ rule ∈ rules, rule ≠ .containerResources) :
    rest (Mutate.chain (rules.map Rule.mutate) existing desired).object = rest existing := by
  refine Mutate.chain_keeps (fun object => rest object = rest existing) ?_ rfl
  refine List.forall_mem_map.mpr fun rule listed object kept => ?_
  exact (Rule.rest_mutate object desired (others rule listed)).trans kept

theorem restWith_chain {rules : List Rule} :
    restWith [] (Mutate.chain (rules.map Rule.mutate) existing desired).object = restWith [] existing := by
  refine Mutate.chain_keeps (fun object => restWith [] object = restWith [] existing) ?_ rfl
  exact List.forall_mem_map.mpr fun rule _ object kept => (Rule.restWith_mutate object desired rule).trans kept

theorem selector_chain {rules : List Rule} :
    (Mutate.chain (rules.map Rule.mutate) existing desired).object.content.specOrDefault.selector =
      existing.content.specOrDefault.selector :=
  (congrArg (fun deployment : Object Deployment => deployment.content.specOrDefault.selector) restWith_chain :)

/-- Other than one desired container is refused after the annotations have been merged. -/
theorem mutate_genericDeployment_of_not_single (several : desired.content.containers.length ≠ 1) :
    Mutator.genericDeployment.mutate existing desired =
      .refused (followAnnotations existing desired).value (.invariantViolation (describe desired)
        ("desired spec.template.spec.containers has " ++ toString desired.content.containers.length ++
          " entries, expected 1")) := by
  rw [mutate_genericDeployment]
  have annotated : Rule.annotations.mutate existing desired = .done (followAnnotations existing desired) := rfl
  change Mutate.chain (Rule.annotations.mutate :: Rule.containerResources.mutate :: laterRules.map Rule.mutate) _ _ = _
  rw [Mutate.chain_cons, annotated, Mutation.andThen_of_ok (Mutation.outcome_done _), Mutation.object_done,
    Mutate.chain_cons, mutate_containerResources_of_not_single several,
    Mutation.andThen_of_error (Mutation.outcome_refused _ _)]
  rfl

variable {wanted : Container} (single : desired.content.containers = [wanted])

include single

theorem containers_afterResources (existing : Object Deployment) :
    ∃ container, (afterResources existing desired).content.containers = [container] ∧
      (container.resources = wanted.resources ∨
        ResourceRequirements.same container.resources wanted.resources = true) ∧
      ∀ before, existing.content.containers = [before] →
        container = { before with resources := container.resources } := by
  rw [afterResources, mutate_containerResources_of_single single]
  exact containers_of_settleResources wanted existing.content

/-- With one desired container the rules for annotations and resources succeed, and the others run on what these
leave. -/
theorem chain_genericRules_of_single (existing : Object Deployment) :
    (Mutate.chain (genericRules.map Rule.mutate) existing desired).Succeeds ∧
      (Mutate.chain (genericRules.map Rule.mutate) existing desired).object =
        (Mutate.chain (laterRules.map Rule.mutate) (afterResources existing desired) desired).object := by
  have annotated : (Rule.annotations.mutate existing desired).Succeeds := ⟨_, rfl⟩
  have resourced :
      (Rule.containerResources.mutate (Rule.annotations.mutate existing desired).object desired).Succeeds := by
    rw [mutate_containerResources_of_single single]
    exact ⟨_, rfl⟩
  obtain ⟨container, listed, -⟩ := containers_afterResources single existing
  have later : (Mutate.chain (laterRules.map Rule.mutate) (afterResources existing desired) desired).Succeeds := by
    -- none of the later rules adds or removes a container, so none of them is refused
    refine (Mutate.succeeds_chain_of_keeps
      (fun object => object.content.containers.length = desired.content.containers.length) ?_ ?_).1
    · refine List.forall_mem_map.mpr fun rule among object counts => ?_
      have lawful := isLawful_of_laterRules rule among
      have kept := rule.length_containers_of_isLawful lawful object desired
      exact ⟨rule.succeeds_of_isLawful lawful counts, kept.trans counts⟩
    · rw [listed, single]
      rfl
  have order : genericRules.map Rule.mutate =
      Rule.annotations.mutate :: Rule.containerResources.mutate :: laterRules.map Rule.mutate := rfl
  rw [order]
  refine ⟨Mutate.succeeds_chain_cons_iff.mpr ⟨annotated, Mutate.succeeds_chain_cons_iff.mpr ⟨resourced, later⟩⟩, ?_⟩
  rw [Mutate.object_chain_cons annotated, Mutate.object_chain_cons resourced]
  rfl

end Chain

section Satisfied

variable {existing desired : Object Deployment}

theorem podField_of_unchanged {α : Type} [DecidableEq α] {field : PodField α} {existing desired : Deployment}
    (unchanged : (followPodField field existing desired).changed = false) :
    field.get existing.podSpecOrDefault = field.get desired.podSpecOrDefault := by
  rw [followPodField] at unchanged
  split at unchanged
  · assumption
  · cases unchanged

theorem template_metadata (deployment : Deployment) :
    deployment.template?.bind (·.metadata) = deployment.specOrDefault.template.metadata := by
  obtain ⟨spec, status⟩ := deployment
  cases spec <;> rfl

theorem podMetadata_of_unchanged {get : ObjectMeta → Option StringMap}
    {set : Option StringMap → ObjectMeta → ObjectMeta} (absent : get default = none) {existing desired : Deployment}
    (unchanged : (mergePodMetadata get set existing desired).changed = false) :
    Merge.Within (get desired.podMetadata) (get existing.podMetadata) := by
  rw [mergePodMetadata, template_metadata] at unchanged
  change Merge.Within (get (desired.specOrDefault.template.metadata.getD default)) _
  cases wanted : desired.specOrDefault.template.metadata with
  | none =>
    rw [Option.getD_none, absent]
    exact fun _ _ found => by cases found
  | some metadata =>
    rw [wanted] at unchanged
    exact Merge.changed_merge_eq_false_iff.mp unchanged

theorem map_containers_of_quiet {γ : Type} {edit : Container → Container → Edit Container} {f : Container → γ}
    (follows : ∀ current wanted, (edit current wanted).changed = false → f current = f wanted)
    (quiet : (mutateUnlessRefused (pairContainers edit)).Quiet desired existing) :
    existing.content.containers.map f = desired.content.containers.map f := by
  simp only [Mutate.Quiet, mutateUnlessRefused, pairContainers] at quiet
  split at quiet
  · next after edited =>
    split at edited
    · next counts =>
      cases edited
      exact Edit.map_eq_of_unchanged_pairs follows counts (Except.ok.inj quiet)
    · cases edited
  · cases quiet

theorem initContainers_followInitContainerImages (existing desired : Deployment) :
    (followInitContainerImages existing desired).value.initContainers =
      (Edit.pairsOrAdded editImage existing.initContainers desired.initContainers).value := by
  rw [followInitContainerImages]
  split
  · next none =>
    rw [List.isEmpty_iff.mp none]
    exact (Edit.value_pairsOrAdded_nil editImage existing.initContainers).symm
  · rfl

theorem image_of_quiet_initContainerImages (quiet : Rule.initContainerImages.mutate.Quiet desired existing)
    {index : Nat} {wanted : Container} (listed : desired.content.initContainers[index]? = some wanted) :
    ∃ container, existing.content.initContainers[index]? = some container ∧ container.image = wanted.image := by
  have unchanged := Mutate.changed_of_quiet quiet
  rw [followInitContainerImages] at unchanged
  split at unchanged
  · next none => simp [List.isEmpty_iff.mp none] at listed
  · refine Edit.getElem?_of_unchanged_pairsOrAdded (fun current wanted same => ?_) unchanged listed
    simpa [editImage] using same

end Satisfied

end Deployment

/-- A container is as another one in what the rules for most deployments govern. -/
structure Container.Follows (container wanted : Container) : Prop where
  args : container.args = wanted.args
  image : container.image = wanted.image
  livenessProbe : container.livenessProbe = wanted.livenessProbe
  readinessProbe : container.readinessProbe = wanted.readinessProbe
  resources : container.resources = wanted.resources ∨
    ResourceRequirements.same container.resources wanted.resources = true

/-- A container is another one with at most other values where the rules for most deployments govern it. -/
def Container.Governed (before container : Container) : Prop :=
  container =
    { before with
      args := container.args
      image := container.image
      livenessProbe := container.livenessProbe
      readinessProbe := container.readinessProbe
      resources := container.resources }

theorem Container.governed_of_rest {before container : Container}
    (rest : Deployment.restOfContainer container = Deployment.restOfContainer before)
    (env : container.env = before.env) (volumeMounts : container.volumeMounts = before.volumeMounts) :
    before.Governed container := by
  cases container
  cases before
  simp_all [Deployment.restOfContainer, Governed]

namespace Deployment

/-- A deployment is as another one in what the rules for most deployments govern. -/
structure Follows (left desired : Object Deployment) : Prop where
  container : ∃ container wanted, left.content.containers = [container] ∧ desired.content.containers = [wanted] ∧
    container.Follows wanted
  affinity : left.content.podSpecOrDefault.affinity = desired.content.podSpecOrDefault.affinity
  tolerations : left.content.podSpecOrDefault.tolerations = desired.content.podSpecOrDefault.tolerations
  priorityClassName :
    left.content.podSpecOrDefault.priorityClassName = desired.content.podSpecOrDefault.priorityClassName
  topologySpreadConstraints : left.content.podSpecOrDefault.topologySpreadConstraints =
    desired.content.podSpecOrDefault.topologySpreadConstraints
  annotations : Merge.Within desired.metadata.annotations left.metadata.annotations
  podLabels : Merge.Within desired.content.podMetadata.labels left.content.podMetadata.labels
  podAnnotations : Merge.Within desired.content.podMetadata.annotations left.content.podMetadata.annotations
  initContainers : ∀ (index : Nat) (wanted : Container), desired.content.initContainers[index]? = some wanted →
    ∃ container : Container, left.content.initContainers[index]? = some container ∧ container.image = wanted.image

/-- What the rules for most deployments do not govern is as before. A single container stays as well. -/
structure Keeps (existing left desired : Object Deployment) : Prop where
  replicas : left.content.specOrDefault.replicas = existing.content.specOrDefault.replicas
  strategy : left.content.specOrDefault.strategy = existing.content.specOrDefault.strategy
  selector : left.content.specOrDefault.selector = existing.content.specOrDefault.selector
  volumes : left.content.podSpecOrDefault.volumes = existing.content.podSpecOrDefault.volumes
  container : ∀ before, existing.content.containers = [before] →
    ∃ container, left.content.containers = [container] ∧ before.Governed container
  initContainers : left.content.initContainers.drop desired.content.initContainers.length =
    existing.content.initContainers.drop desired.content.initContainers.length
  rest : restWith [] left = restWith [] existing

/-- The pods have metadata after a success if the desired ones do. -/
theorem isSome_podMetadata_after_chain {rules : List Rule} {existing desired : Object Deployment}
    (success : (Mutate.chain (rules.map Rule.mutate) existing desired).Succeeds)
    (listed : .podTemplateLabels ∈ rules) (wanted : (desired.content.template?.bind (·.metadata)).isSome = true) :
    (Mutate.chain (rules.map Rule.mutate) existing desired).object.content.specOrDefault.template.metadata.isSome =
      true := by
  obtain ⟨before, after, rfl⟩ := List.append_of_mem listed
  rw [List.map_append, List.map_cons] at success ⊢
  refine Mutate.holds_after_chain
    (fun object : Object Deployment => object.content.specOrDefault.template.metadata.isSome = true)
    (fun object _ => ?_) (List.forall_mem_map.mpr fun rule _ object present _ => ?_) success
  · obtain ⟨metadata, wanted⟩ := Option.isSome_iff_exists.mp wanted
    simp only [Rule.mutate, Mutate.ofContentEdit, Mutate.ofEdit, Mutation.object_done, Edit.value_map, mergePodMetadata,
      wanted]
    rfl
  · exact rule.isSome_podMetadata_mutate object desired present

section Single

variable {desired : Object Deployment} {wanted : Container} (single : desired.content.containers = [wanted])
  (existing : Object Deployment)

include single

theorem follows_after_chain :
    Follows (Mutate.chain (genericRules.map Rule.mutate) existing desired).object desired := by
  obtain ⟨success, object⟩ := chain_genericRules_of_single single existing
  have quiet (rule : Rule) (listed : rule ∈ genericRules) (other : rule ≠ .containerResources) :=
    AppStack.quiet_after_deploymentRules genericRules_sublist success listed other
  obtain ⟨given, listed, same, -⟩ := containers_afterResources single existing
  -- the later rules keep the resources, and so the number of containers
  have resources :=
    @read_chain (afterResources existing desired) desired laterRules (.containers .resources) (by decide)
  rw [← object] at resources
  simp only [Aspect.read, listed] at resources
  obtain ⟨container, alone, (kept : container.resources = given.resources)⟩ := List.map_eq_singleton_iff.mp resources
  have follows {γ : Type} (f : Container → γ) {edit : Container → Container → Edit Container}
      (exact : ∀ current wanted, (edit current wanted).changed = false → f current = f wanted)
      (quiet : (mutateUnlessRefused (pairContainers edit)).Quiet desired
        (Mutate.chain (genericRules.map Rule.mutate) existing desired).object) : f container = f wanted := by
    have all := map_containers_of_quiet exact quiet
    rw [alone, single] at all
    exact List.singleton_inj.mp all
  have probes := follows (fun container => (container.livenessProbe, container.readinessProbe))
    (fun current wanted same => by simpa [editProbes] using same) (quiet .probes (by decide) (by decide))
  obtain ⟨liveness, readiness⟩ := Prod.mk.inj probes
  exact
    { container := ⟨container, wanted, alone, single,
        { args := follows (·.args) (fun current wanted same => by simpa [editArgs] using same)
            (quiet .args (by decide) (by decide))
          image := follows (·.image) (fun current wanted same => by simpa [editImage] using same)
            (quiet .containerImages (by decide) (by decide))
          livenessProbe := liveness
          readinessProbe := readiness
          resources := kept ▸ same }⟩
      affinity := podField_of_unchanged (Mutate.changed_of_quiet (quiet .affinity (by decide) (by decide)))
      tolerations := podField_of_unchanged (Mutate.changed_of_quiet (quiet .tolerations (by decide) (by decide)))
      priorityClassName := podField_of_unchanged (Mutate.changed_of_quiet (quiet .priorityClass (by decide) (by decide)))
      topologySpreadConstraints :=
        podField_of_unchanged (Mutate.changed_of_quiet (quiet .topologySpreadConstraints (by decide) (by decide)))
      annotations :=
        Merge.changed_merge_eq_false_iff.mp (Except.ok.inj (quiet .annotations (by decide) (by decide)))
      podLabels := podMetadata_of_unchanged rfl (Mutate.changed_of_quiet (quiet .podTemplateLabels (by decide) (by decide)))
      podAnnotations :=
        podMetadata_of_unchanged rfl (Mutate.changed_of_quiet (quiet .podTemplateAnnotations (by decide) (by decide)))
      initContainers := fun _ _ listed =>
        image_of_quiet_initContainerImages (quiet .initContainerImages (by decide) (by decide)) listed }

theorem keeps_after_chain :
    Keeps existing (Mutate.chain (genericRules.map Rule.mutate) existing desired).object desired := by
  obtain ⟨-, object⟩ := chain_genericRules_of_single single existing
  refine
    { replicas := @read_chain existing desired genericRules .replicas (by decide)
      strategy := @read_chain existing desired genericRules .strategy (by decide)
      selector := selector_chain
      volumes := @read_chain existing desired genericRules .volumes (by decide)
      container := fun before alone => ?container
      initContainers := ?initContainers
      rest := restWith_chain }
  case container =>
    obtain ⟨given, listed, -, stays⟩ := containers_afterResources single existing
    have others := @rest_chain (afterResources existing desired) desired laterRules (by decide)
    have env := @read_chain (afterResources existing desired) desired laterRules (.containers .env) (by decide)
    have mounts :=
      @read_chain (afterResources existing desired) desired laterRules (.containers .volumeMounts) (by decide)
    rw [← object] at others env mounts
    have containers := congrArg (fun deployment : Object Deployment => deployment.content.containers) others
    change List.map _ _ = List.map _ _ at containers
    simp only [Aspect.read, listed, List.map_cons, List.map_nil] at containers env mounts
    obtain ⟨container, left, same⟩ := List.map_eq_singleton_iff.mp containers
    rw [left] at env mounts
    refine ⟨container, left, ?_⟩
    rw [stays before alone] at same env mounts
    exact Container.governed_of_rest same (List.singleton_inj.mp env) (List.singleton_inj.mp mounts)
  case initContainers =>
    refine Mutate.chain_keeps (fun object : Object Deployment =>
      object.content.initContainers.drop desired.content.initContainers.length =
        existing.content.initContainers.drop desired.content.initContainers.length) ?_ rfl
    refine List.forall_mem_map.mpr fun rule listed object kept => ?_
    by_cases images : rule = .initContainerImages
    · subst images
      refine Eq.trans ?_ kept
      exact (congrArg _ (initContainers_followInitContainerImages object.content desired.content)).trans
        (Edit.drop_value_pairsOrAdded editImage object.content.initContainers desired.content.initContainers)
    · have outside : ∀ rule ∈ genericRules, rule ≠ .initContainerImages → Aspect.initContainers ∉ rule.writes := by
        decide
      exact (congrArg (List.drop _) (rule.read_mutate object desired (outside rule listed images))).trans kept

/-- What the rules create without a report is there after a success. -/
theorem finds_after_chain {rule : Rule} (listed : rule ∈ genericRules) :
    rule.Finds (Mutate.chain (genericRules.map Rule.mutate) existing desired).object.content desired.content := by
  obtain ⟨success, -⟩ := chain_genericRules_of_single single existing
  have described :
      (Mutate.chain (genericRules.map Rule.mutate) existing desired).object.content.podSpec?.isSome = true := by
    obtain ⟨container, -, listed, -⟩ := (follows_after_chain single existing).container
    cases absent : (Mutate.chain (genericRules.map Rule.mutate) existing desired).object.content.podSpec? with
    | none => simp [containers, podSpecOrDefault, absent, default, instInhabitedPodSpec.default] at listed
    | some spec => rfl
  have metadata (wanted : (desired.content.template?.bind (·.metadata)).isSome = true) :
      ((Mutate.chain (genericRules.map Rule.mutate) existing desired).object.content.template?.bind
        (·.metadata)).isSome = true := by
    rw [template_metadata]
    exact isSome_podMetadata_after_chain success (by decide) wanted
  cases rule with
  | podTemplateLabels | podTemplateAnnotations => exact metadata
  | strategy => exact absurd listed (by decide)
  | namedVolumes _ => exact described
  | args | probes | containerImages | containerVolumeMounts | initContainerVolumeMounts
  | namedContainerVolumeMounts _ | namedInitContainerVolumeMounts _ | envVar _ => exact fun _ => described
  | _ => trivial

/-- Once more, the rules do nothing if the resources of the desired container are the same as themselves. -/
theorem mutate_again
    (own : ResourceRequirements.same wanted.resources wanted.resources = true) :
    let left := (Mutator.genericDeployment.mutate existing desired).object
    Mutator.genericDeployment.mutate left desired = .done (.keep left) := by
  intro left
  have bounded : ∀ container ∈ desired.content.containers,
      ResourceRequirements.same container.resources container.resources = true := by
    rw [single]
    exact List.forall_mem_singleton.mpr own
  obtain ⟨success, -⟩ := chain_genericRules_of_single single existing
  have quiet : Mutator.genericDeployment.mutate.Quiet desired left := by
    simp only [left, mutate_genericDeployment]
    exact AppStack.deploymentRules_settleAt genericRules_sublist bounded existing success
  refine Mutation.ext (Mutator.object_of_quiet quiet fun rule governs => ?_) quiet
  cases governs with
  | member within governs =>
    obtain ⟨governed, listed, rfl⟩ := List.mem_map.mp within
    cases governs
    simp only [left, mutate_genericDeployment]
    exact finds_after_chain single existing listed

end Single

/-- What the mutator for most deployments does. It is refused exactly if other than one container is desired, and then
it touches annotations only. Otherwise it succeeds whatever there is: it makes the deployment follow the desired one in
what it governs, keeps the rest, and once more does nothing if the desired resources are the same as themselves. -/
theorem genericDeployment_reconciles (existing desired : Object Deployment) :
    let run := Mutator.genericDeployment.mutate existing desired
    ((∃ failure, run.outcome = .error failure) ↔ desired.content.containers.length ≠ 1) ∧
      (desired.content.containers.length ≠ 1 →
        run.object = { existing with metadata.annotations := run.object.metadata.annotations }) ∧
      (desired.content.containers.length = 1 →
        run.Succeeds ∧ Follows run.object desired ∧ Keeps existing run.object desired ∧
          ((∀ container ∈ desired.content.containers,
              ResourceRequirements.same container.resources container.resources = true) →
            Mutator.genericDeployment.mutate run.object desired = .done (.keep run.object))) := by
  intro run
  by_cases count : desired.content.containers.length = 1
  · obtain ⟨wanted, single⟩ := List.length_eq_one_iff.mp count
    have ran : run = Mutate.chain (genericRules.map Rule.mutate) existing desired := by
      simp only [run, mutate_genericDeployment]
    obtain ⟨success, -⟩ := chain_genericRules_of_single single existing
    obtain ⟨changed, outcome⟩ := ran ▸ success
    refine ⟨⟨fun ⟨failure, refused⟩ => ?_, absurd count⟩, absurd count,
      fun _ => ⟨⟨changed, outcome⟩, ?_, ?_, fun own => ?_⟩⟩
    · cases outcome.symm.trans refused
    · exact ran ▸ follows_after_chain single existing
    · exact ran ▸ keeps_after_chain single existing
    · exact mutate_again single existing (own wanted (single ▸ List.mem_singleton_self wanted))
  · have refused : run = .refused _ _ := @mutate_genericDeployment_of_not_single existing desired count
    refine ⟨⟨fun _ => count, fun _ => ⟨_, congrArg Mutation.outcome refused⟩⟩, fun _ => ?_, fun one => absurd one count⟩
    rw [refused]
    rfl

/-- A deployment of one container with this image. -/
def webOf (image : String) : Object Deployment := ofPods { containers := [{ name := "web", image := some image }] }

/-- A deployment without a specification gets the desired container, and the number of its pods is left open. -/
theorem genericDeployment_reconciles_of_bare :
    let run := Mutator.genericDeployment.mutate ⟨{}, {}⟩ (webOf "web:2")
    run.Succeeds ∧ Follows run.object (webOf "web:2") ∧ run.object.content.specOrDefault.replicas = none ∧
      Mutator.genericDeployment.mutate run.object (webOf "web:2") = .done (.keep run.object) := by
  intro run
  obtain ⟨-, -, reconciled⟩ := genericDeployment_reconciles ⟨{}, {}⟩ (webOf "web:2")
  obtain ⟨success, follows, keeps, again⟩ := reconciled rfl
  exact ⟨success, follows, keeps.replicas, again (List.forall_mem_singleton.mpr rfl)⟩

end Deployment

end Reconciliation
