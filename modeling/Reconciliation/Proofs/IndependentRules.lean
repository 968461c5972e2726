import Reconciliation.Proofs.DeploymentFrames
import Reconciliation.Proofs.DeploymentSparing
import Reconciliation.Proofs.MutatorMetadata
import Reconciliation.Proofs.Reordering

/-! # Rules whose order does not matter

A deployment can be restored from its aspects, from its containers and init containers, from the rest of it, and
from what is known about which of its nested structures are there (`restore_rest`). An independent rule has one
aspect of its own. What becomes of it depends on nothing else, and so does which structures the rule creates;
everything else stays. So two such rules leave the same deployment in either order, even where both create
structures that are absent, and a chain of them can be put into any order.
-/

namespace Reconciliation.Deployment

/-- The rules with an aspect of their own, which they write without a look at anything else. -/
def Rule.IsIndependent : Rule → Prop
  | annotations | replicas | affinity | tolerations | priorityClass | topologySpreadConstraints | podTemplateLabels
  | podTemplateAnnotations | strategy | args | probes | containerImages | volumes | containerVolumeMounts => True
  | _ => False

/-- The nested structures of a deployment that rules create where they are absent. -/
inductive Layer
  | spec
  | podMetadata
  | podSpec
deriving DecidableEq

namespace Layer

def isPresent : Layer → Deployment → Bool
  | spec, deployment => deployment.spec.isSome
  | podMetadata, deployment => deployment.specOrDefault.template.metadata.isSome
  | podSpec, deployment => deployment.specOrDefault.template.spec.isSome

variable (layer : Layer) (deployment : Deployment)

theorem isPresent_setSpec {spec : DeploymentSpec} (kept : spec.template = deployment.specOrDefault.template) :
    layer.isPresent (deployment.setSpec spec) = (layer.isPresent deployment || layer == .spec) := by
  cases layer <;> simp [isPresent, setSpec, specOrDefault, kept]

theorem isPresent_setPodSpec (spec : PodSpec) :
    layer.isPresent (deployment.setPodSpec spec) = (layer.isPresent deployment || layer != .podMetadata) := by
  cases layer <;> simp [isPresent, setPodSpec, setTemplate, setSpec, specOrDefault]

theorem isPresent_setPodMetadata (metadata : ObjectMeta) :
    layer.isPresent (deployment.setPodMetadata metadata) = (layer.isPresent deployment || layer != .podSpec) := by
  cases layer <;> simp [isPresent, setPodMetadata, setTemplate, setSpec, specOrDefault]

end Layer

section Structures

variable (deployment : Deployment)

theorem podSpecOrDefault_eq : deployment.podSpecOrDefault = deployment.specOrDefault.template.spec.getD default := by
  obtain ⟨_ | spec, status⟩ := deployment <;> rfl

theorem podSpecOrDefault_setSpec {spec : DeploymentSpec} (kept : spec.template = deployment.specOrDefault.template) :
    (deployment.setSpec spec).podSpecOrDefault = deployment.podSpecOrDefault := by
  rw [podSpecOrDefault_eq, podSpecOrDefault_eq, ← kept]
  rfl

theorem podSpecOrDefault_setPodMetadata (metadata : ObjectMeta) :
    (deployment.setPodMetadata metadata).podSpecOrDefault = deployment.podSpecOrDefault := by
  rw [podSpecOrDefault_eq, podSpecOrDefault_eq]
  rfl

end Structures

section Restoring

/-- The deployment of these parts. -/
def restore (rest : Object Deployment) (aspects : (aspect : Aspect) → aspect.Value) (present : Layer → Bool)
    (containers : List Container) (initContainers : Option (List Container)) : Object Deployment where
  metadata := { rest.metadata with annotations := aspects .annotations }
  content :=
    { rest.content with
      spec :=
        if present .spec then
          some
            { rest.content.specOrDefault with
              replicas := aspects .replicas
              strategy := aspects .strategy
              template :=
                { metadata :=
                    if present .podMetadata then
                      some
                        { rest.content.podMetadata with
                          labels := aspects .podLabels
                          annotations := aspects .podAnnotations }
                    else none
                  spec :=
                    if present .podSpec then
                      some
                        { rest.content.podSpecOrDefault with
                          affinity := aspects .affinity
                          containers
                          initContainers
                          priorityClassName := aspects .priorityClass
                          tolerations := aspects .tolerations
                          topologySpreadConstraints := aspects .topologySpreadConstraints
                          volumes := aspects .volumes }
                    else none } }
        else none }

theorem restore_rest (deployment : Object Deployment) :
    restore (rest deployment) (fun aspect => aspect.read deployment) (fun layer => layer.isPresent deployment.content)
      deployment.content.containers deployment.content.podSpecOrDefault.initContainers = deployment := by
  obtain ⟨metadata, ⟨_ | ⟨minReadySeconds, paused, deadline, replicas, history, selector, strategy,
    ⟨_ | podMetadata, _ | podSpec⟩⟩, status⟩⟩ := deployment <;> rfl

/-- The container of this rest and these facets. -/
def restoreContainer (rest : Container) (facets : (facet : Facet) → facet.Value) : Container :=
  { rest with
    args := facets .args
    env := facets .env
    image := facets .image
    livenessProbe := (facets .probes).1
    readinessProbe := (facets .probes).2
    resources := facets .resources
    volumeMounts := facets .volumeMounts }

theorem restoreContainer_restOfContainer (container : Container) :
    restoreContainer (restOfContainer container) (fun facet => facet.read container) = container := rfl

/-- Containers that do not differ in what rules see of them nor in the rest are the same. -/
theorem containers_ext {containers others : List Container}
    (facets : ∀ facet : Facet, containers.map facet.read = others.map facet.read)
    (rests : containers.map restOfContainer = others.map restOfContainer) : containers = others := by
  induction containers generalizing others with
  | nil => exact (List.map_eq_nil_iff.mp rests.symm).symm
  | cons container containers ih =>
    obtain ⟨other, others, rfl, rest, later⟩ := List.map_eq_cons_iff.mp rests.symm
    have heads : (fun facet : Facet => facet.read container) = fun facet => facet.read other :=
      funext fun facet => (List.cons.inj (facets facet)).1
    have same : container = other := by
      rw [← restoreContainer_restOfContainer container, ← restoreContainer_restOfContainer other, rest, heads]
    rw [same, ih (fun facet => (List.cons.inj (facets facet)).2) later.symm]

/-- Deployments that differ neither in an aspect nor in the rest, nor in which structures are there, are the same. -/
theorem ext_of_aspects {deployment other : Object Deployment}
    (aspects : ∀ aspect : Aspect, aspect.read deployment = aspect.read other)
    (layers : ∀ layer : Layer, layer.isPresent deployment.content = layer.isPresent other.content)
    (initContainers : deployment.content.podSpecOrDefault.initContainers = other.content.podSpecOrDefault.initContainers)
    (rests : rest deployment = rest other) : deployment = other := by
  have containers : deployment.content.containers = other.content.containers :=
    containers_ext (fun facet => aspects (.containers facet)) (congrArg (·.content.containers) rests)
  rw [← restore_rest deployment, ← restore_rest other, rests, containers, initContainers, funext aspects, funext layers]

end Restoring

theorem length_eq_of_map_eq {α γ : Type} {f : α → γ} {items others : List α} (same : items.map f = others.map f) :
    items.length = others.length := by
  simpa using congrArg List.length same

/-- Containers that do not differ in one facet do not differ in it after they have been edited in pairs. -/
theorem map_value_pairs_congr {α β γ : Type} {edit : α → β → Edit α} {f : α → γ}
    (depends : ∀ a b wanted, f a = f b → f (edit a wanted).value = f (edit b wanted).value) {items others : List α}
    (same : items.map f = others.map f) (wanted : List β) :
    (Edit.pairs edit items wanted).value.map f = (Edit.pairs edit others wanted).value.map f := by
  induction items generalizing others wanted with
  | nil =>
    obtain rfl : others = [] := List.map_eq_nil_iff.mp same.symm
    rfl
  | cons item rest ih =>
    obtain ⟨other, more, rfl, here, later⟩ := List.map_eq_cons_iff.mp same.symm
    cases wanted with
    | nil => exact same
    | cons goal goals => simp only [Edit.pairs, List.map_cons, depends item other goal here.symm, ih later.symm]

section Effects

variable {existing other : Object Deployment} (desired : Object Deployment)

/-- A field that follows is the desired one, whatever it was. -/
theorem get_followPodField {α : Type} [DecidableEq α] {field : PodField α}
    (kept : ∀ value spec, field.get (field.set value spec) = value) (existing : Object Deployment) :
    field.get (followPodField field existing.content desired.content).value.podSpecOrDefault =
      field.get desired.content.podSpecOrDefault := by
  rw [followPodField]
  split
  · next same => exact same
  · exact kept _ _

theorem get_followPodField_congr {α : Type} [DecidableEq α] (field : PodField α)
    (kept : ∀ value spec, field.get (field.set value spec) = value) :
    field.get (followPodField field existing.content desired.content).value.podSpecOrDefault =
      field.get (followPodField field other.content desired.content).value.podSpecOrDefault :=
  (get_followPodField desired kept existing).trans (get_followPodField desired kept other).symm

theorem get_mergePodMetadata_congr (get : ObjectMeta → Option StringMap)
    (set : Option StringMap → ObjectMeta → ObjectMeta) (kept : ∀ map metadata, get (set map metadata) = map)
    (same : get existing.content.podMetadata = get other.content.podMetadata) :
    get (mergePodMetadata get set existing.content desired.content).value.podMetadata =
      get (mergePodMetadata get set other.content desired.content).value.podMetadata := by
  simp only [mergePodMetadata]
  split
  · exact same
  · next wanted given =>
    have merged (deployment : Deployment) (map : Option StringMap) :
        get (deployment.setPodMetadata (set map deployment.podMetadata)).podMetadata = map := kept _ _
    simp only [Edit.value_map, merged, same]

section Containers

variable {facet : Facet} {edit : Container → Container → Edit Container}
  (depends : ∀ a b wanted,
    facet.read a = facet.read b → facet.read (edit a wanted).value = facet.read (edit b wanted).value)
  (same : existing.content.containers.map facet.read = other.content.containers.map facet.read)

include depends same

theorem map_editContainers_congr :
    (editContainers edit existing.content desired.content).value.containers.map facet.read =
      (editContainers edit other.content desired.content).value.containers.map facet.read :=
  map_value_pairs_congr depends same _

theorem map_editEqualContainers_congr :
    (editEqualContainers edit existing.content desired.content).value.containers.map facet.read =
      (editEqualContainers edit other.content desired.content).value.containers.map facet.read := by
  have counts : existing.content.containers.length = other.content.containers.length := length_eq_of_map_eq same
  simp only [editEqualContainers, counts]
  split
  · exact map_editContainers_congr desired depends same
  · exact same

theorem map_pairContainers_congr :
    (mutateUnlessRefused (pairContainers edit) existing desired).object.content.containers.map facet.read =
      (mutateUnlessRefused (pairContainers edit) other desired).object.content.containers.map facet.read := by
  have counts : existing.content.containers.length = other.content.containers.length := length_eq_of_map_eq same
  by_cases paired : other.content.containers.length = desired.content.containers.length
  · simp only [mutateUnlessRefused, pairContainers, counts, paired, if_true]
    exact map_editContainers_congr desired depends same
  · simp only [mutateUnlessRefused, pairContainers, counts, paired, if_false]
    exact same

end Containers

/-- What an independent rule leaves of its aspect depends on nothing else. -/
theorem Rule.read_mutate_congr {rule : Rule} (independent : rule.IsIndependent)
    (same : ∀ aspect ∈ rule.reads, aspect.read existing = aspect.read other) :
    ∀ aspect ∈ rule.reads,
      aspect.read (rule.mutate existing desired).object = aspect.read (rule.mutate other desired).object := by
  have own : ∀ {aspect : Aspect}, aspect ∈ rule.reads → aspect.read existing = aspect.read other :=
    fun {aspect} => same aspect
  intro aspect within
  cases rule with
  | annotations =>
    obtain rfl := List.mem_singleton.mp within
    have annotations := own (.head _)
    exact congrArg (fun annotations => (Merge.merge annotations desired.metadata.annotations).value) annotations
  | replicas =>
    obtain rfl := List.mem_singleton.mp within
    simp only [Rule.mutate, Mutate.ofContentEdit, Mutate.ofEdit, Mutation.object_done, Edit.value_map, followReplicas]
    split
    · exact own (.head _)
    · rfl
  | strategy =>
    obtain rfl := List.mem_singleton.mp within
    rfl
  | podTemplateLabels =>
    obtain rfl := List.mem_singleton.mp within
    exact get_mergePodMetadata_congr desired (·.labels) (fun labels metadata => { metadata with labels })
      (fun _ _ => rfl) (own (.head _))
  | podTemplateAnnotations =>
    obtain rfl := List.mem_singleton.mp within
    exact get_mergePodMetadata_congr desired (·.annotations) (fun annotations metadata => { metadata with annotations })
      (fun _ _ => rfl) (own (.head _))
  | affinity =>
    obtain rfl := List.mem_singleton.mp within
    exact get_followPodField_congr desired ⟨(·.affinity), fun affinity spec => { spec with affinity }⟩ fun _ _ => rfl
  | tolerations =>
    obtain rfl := List.mem_singleton.mp within
    exact get_followPodField_congr desired ⟨(·.tolerations), fun tolerations spec => { spec with tolerations }⟩
      fun _ _ => rfl
  | priorityClass =>
    obtain rfl := List.mem_singleton.mp within
    exact get_followPodField_congr desired
      ⟨(·.priorityClassName), fun priorityClassName spec => { spec with priorityClassName }⟩ fun _ _ => rfl
  | topologySpreadConstraints =>
    obtain rfl := List.mem_singleton.mp within
    exact get_followPodField_congr desired
      ⟨(·.topologySpreadConstraints), fun topologySpreadConstraints spec => { spec with topologySpreadConstraints }⟩
      fun _ _ => rfl
  | args =>
    obtain rfl := List.mem_singleton.mp within
    exact @map_pairContainers_congr existing other desired .args editArgs (fun _ _ _ _ => rfl) (own (.head _))
  | probes =>
    obtain rfl := List.mem_singleton.mp within
    exact @map_pairContainers_congr existing other desired .probes editProbes (fun _ _ _ _ => rfl) (own (.head _))
  | containerImages =>
    obtain rfl := List.mem_singleton.mp within
    exact @map_pairContainers_congr existing other desired .image editImage (fun _ _ _ _ => rfl) (own (.head _))
  | containerVolumeMounts =>
    obtain rfl := List.mem_singleton.mp within
    exact @map_editEqualContainers_congr existing other desired .volumeMounts editVolumeMounts (fun _ _ _ _ => rfl)
      (own (.head _))
  | volumes =>
    obtain rfl := List.mem_singleton.mp within
    have volumes : existing.content.podSpecOrDefault.volumes = other.content.podSpecOrDefault.volumes := own (.head _)
    have sorted : existing.content.sortedVolumes = other.content.sortedVolumes :=
      congrArg (fun volumes : Option (List Volume) => (volumes.getD []).mergeSort _) volumes
    simp only [Rule.mutate, Mutate.ofContentEdit, Mutate.ofEdit, Mutation.object_done, Edit.value_map, followVolumes,
      sorted]
    split
    · exact volumes
    · rfl
  | _ => exact independent.elim

/-- No independent rule touches init containers, or makes them absent or present. -/
theorem Rule.initContainers_mutate {rule : Rule} (independent : rule.IsIndependent) (existing : Object Deployment) :
    (rule.mutate existing desired).object.content.podSpecOrDefault.initContainers =
      existing.content.podSpecOrDefault.initContainers := by
  cases rule with
  | annotations => rfl
  | strategy => exact congrArg (·.initContainers) (podSpecOrDefault_setSpec existing.content rfl)
  | replicas =>
    simp only [Rule.mutate, Mutate.ofContentEdit, Mutate.ofEdit, Mutation.object_done, Edit.value_map, followReplicas]
    split
    · rfl
    · exact congrArg (·.initContainers) (podSpecOrDefault_setSpec existing.content rfl)
  | podTemplateLabels | podTemplateAnnotations =>
    simp only [Rule.mutate, Mutate.ofContentEdit, Mutate.ofEdit, Mutation.object_done, Edit.value_map, mergePodMetadata]
    split
    · rfl
    · exact congrArg (·.initContainers) (podSpecOrDefault_setPodMetadata existing.content _)
  | affinity | tolerations | priorityClass | topologySpreadConstraints =>
    simp only [Rule.mutate, Mutate.ofContentEdit, Mutate.ofEdit, Mutation.object_done, Edit.value_map, followPodField]
    split <;> rfl
  | args | probes | containerImages =>
    simp only [Rule.mutate, mutateUnlessRefused, pairContainers]
    split
    · next after edited =>
      split at edited <;> cases edited
      rfl
    · rfl
  | volumes | containerVolumeMounts =>
    simp only [Rule.mutate, Mutate.ofContentEdit, Mutate.ofEdit, Mutation.object_done, Edit.value_map, followVolumes,
      editEqualContainers]
    split <;> rfl
  | _ => exact independent.elim

/-- Independent rules refuse nothing but another number of containers, and all of them in the same words. -/
theorem Rule.failure_of_independent {rule : Rule} (independent : rule.IsIndependent) {failure : Failure}
    (refused : (rule.mutate existing desired).outcome = .error failure) :
    failure = .invariantViolation (describe desired)
      ("existing has " ++ toString existing.content.containers.length ++ " containers, desired has " ++
        toString desired.content.containers.length) := by
  cases rule with
  | args | probes | containerImages =>
    simp only [Rule.mutate, mutateUnlessRefused, pairContainers] at refused
    split at refused
    · cases refused
    · next reason unpaired =>
      split at unpaired <;> cases unpaired
      cases refused
      rfl
  | annotations | replicas | affinity | tolerations | priorityClass | topologySpreadConstraints | podTemplateLabels
  | podTemplateAnnotations | strategy | volumes | containerVolumeMounts => cases refused
  | _ => exact independent.elim

section Layers

variable (layer : Layer)

/-- An edit creates a structure in all deployments that are alike, or in none of them. -/
def Layer.CreatedAlike (layer : Layer) (alike : Object Deployment → Prop) (edit : Object Deployment → Deployment) : Prop :=
  ∃ created : Bool, ∀ deployment, alike deployment →
    layer.isPresent (edit deployment) = (layer.isPresent deployment.content || created)

theorem Layer.CreatedAlike.mono {layer : Layer} {alike narrower : Object Deployment → Prop}
    {edit : Object Deployment → Deployment} (created : layer.CreatedAlike alike edit)
    (narrows : ∀ deployment, narrower deployment → alike deployment) : layer.CreatedAlike narrower edit :=
  created.imp fun _ decided deployment same => decided deployment (narrows deployment same)

theorem Layer.createdAlike_mergePodMetadata (get : ObjectMeta → Option StringMap)
    (set : Option StringMap → ObjectMeta → ObjectMeta) :
    layer.CreatedAlike (fun _ => True) fun deployment =>
      (mergePodMetadata get set deployment.content desired.content).value := by
  cases given : desired.content.template?.bind (·.metadata) with
  | none => exact ⟨false, fun deployment _ => by simp [mergePodMetadata, given]⟩
  | some wanted =>
    refine ⟨layer != .podSpec, fun deployment _ => ?_⟩
    simp only [mergePodMetadata, given, Edit.value_map]
    exact layer.isPresent_setPodMetadata deployment.content _

theorem Layer.createdAlike_followPodField {α : Type} [DecidableEq α] (field : PodField α) (existing : Object Deployment) :
    layer.CreatedAlike
      (fun deployment => field.get deployment.content.podSpecOrDefault = field.get existing.content.podSpecOrDefault)
      fun deployment => (followPodField field deployment.content desired.content).value := by
  by_cases follows : field.get existing.content.podSpecOrDefault = field.get desired.content.podSpecOrDefault
  · exact ⟨false, fun deployment same => by simp [followPodField, same, follows]⟩
  · refine ⟨layer != .podMetadata, fun deployment same => ?_⟩
    simp only [followPodField, same, follows, if_false]
    exact layer.isPresent_setPodSpec deployment.content _

theorem Layer.createdAlike_editEqualContainers (edit : Container → Container → Edit Container)
    (existing : Object Deployment) :
    layer.CreatedAlike (fun deployment => deployment.content.containers.length = existing.content.containers.length)
      fun deployment => (editEqualContainers edit deployment.content desired.content).value := by
  by_cases paired : existing.content.containers.length = desired.content.containers.length
  · refine ⟨layer != .podMetadata, fun deployment same => ?_⟩
    simp only [editEqualContainers, same, paired, if_true]
    exact layer.isPresent_setPodSpec deployment.content _
  · exact ⟨false, fun deployment same => by simp [editEqualContainers, same, paired]⟩

theorem Layer.createdAlike_pairContainers (edit : Container → Container → Edit Container)
    (existing : Object Deployment) :
    layer.CreatedAlike (fun deployment => deployment.content.containers.length = existing.content.containers.length)
      fun deployment => (mutateUnlessRefused (pairContainers edit) deployment desired).object.content := by
  by_cases paired : existing.content.containers.length = desired.content.containers.length
  · refine ⟨layer != .podMetadata, fun deployment same => ?_⟩
    simp only [mutateUnlessRefused, pairContainers, same, paired, if_true]
    exact layer.isPresent_setPodSpec deployment.content _
  · exact ⟨false, fun deployment same => by simp [mutateUnlessRefused, pairContainers, same, paired]⟩

theorem Layer.createdAlike_followVolumes (existing : Object Deployment) :
    layer.CreatedAlike
      (fun deployment => deployment.content.podSpecOrDefault.volumes = existing.content.podSpecOrDefault.volumes)
      fun deployment => (followVolumes deployment.content desired.content).value := by
  have sorted {deployment : Object Deployment}
      (same : deployment.content.podSpecOrDefault.volumes = existing.content.podSpecOrDefault.volumes) :
      deployment.content.sortedVolumes = existing.content.sortedVolumes :=
    congrArg (fun volumes : Option (List Volume) => (volumes.getD []).mergeSort _) same
  by_cases follows : existing.content.sortedVolumes = desired.content.sortedVolumes
  · exact ⟨false, fun deployment same => by simp [followVolumes, sorted same, follows]⟩
  · refine ⟨layer != .podMetadata, fun deployment same => ?_⟩
    simp only [followVolumes, sorted same, follows, if_false]
    exact layer.isPresent_setPodSpec deployment.content _

/-- Which structures an independent rule creates depends on its aspect only. -/
theorem Rule.createdAlike_mutate {rule : Rule} (independent : rule.IsIndependent) (existing : Object Deployment) :
    layer.CreatedAlike (fun deployment => ∀ aspect ∈ rule.reads, aspect.read deployment = aspect.read existing)
      fun deployment => (rule.mutate deployment desired).object.content := by
  have counted {facet : Facet} {deployment : Object Deployment}
      (same : (Aspect.containers facet).read deployment = (Aspect.containers facet).read existing) :
      deployment.content.containers.length = existing.content.containers.length := length_eq_of_map_eq same
  cases rule with
  | annotations => exact ⟨false, fun deployment _ => (Bool.or_false _).symm⟩
  | strategy => exact ⟨layer == .spec, fun deployment _ => layer.isPresent_setSpec deployment.content rfl⟩
  | replicas =>
    cases given : desired.content.spec.bind (·.replicas) with
    | none =>
      refine ⟨false, fun deployment _ => ?_⟩
      simp only [Rule.mutate, Mutate.ofContentEdit, Mutate.ofEdit, Mutation.object_done, Edit.value_map, followReplicas,
        given, Bool.or_false]
      rfl
    | some wanted =>
      refine ⟨layer == .spec, fun deployment _ => ?_⟩
      simp only [Rule.mutate, Mutate.ofContentEdit, Mutate.ofEdit, Mutation.object_done, Edit.value_map, followReplicas,
        given]
      exact layer.isPresent_setSpec deployment.content rfl
  | podTemplateLabels | podTemplateAnnotations =>
    exact (layer.createdAlike_mergePodMetadata desired _ _).mono fun _ _ => trivial
  | affinity | tolerations | priorityClass | topologySpreadConstraints =>
    exact (layer.createdAlike_followPodField desired _ existing).mono fun deployment same => same _ (.head _)
  | args | probes | containerImages =>
    exact (layer.createdAlike_pairContainers desired _ existing).mono fun deployment same => counted (same _ (.head _))
  | containerVolumeMounts =>
    exact (layer.createdAlike_editEqualContainers desired _ existing).mono fun deployment same =>
      counted (same _ (.head _))
  | volumes =>
    exact (layer.createdAlike_followVolumes desired existing).mono fun deployment same => same _ (.head _)
  | _ => exact independent.elim

end Layers

end Effects

section Order

variable {rule other : Rule}

theorem Rule.isLawful_of_independent (independent : rule.IsIndependent) : rule.IsLawful := by
  cases rule with
  | containerResources | namedVolumes _ | namedContainerVolumeMounts _ | namedInitContainerVolumeMounts _ | envVar _ =>
    exact independent.elim
  | _ => trivial

theorem Rule.governor_of_independent (independent : rule.IsIndependent) {aspect : Aspect} (reads : aspect ∈ rule.reads) :
    aspect.governor = rule := by
  cases rule with
  | annotations | replicas | affinity | tolerations | priorityClass | topologySpreadConstraints | podTemplateLabels
  | podTemplateAnnotations | strategy | args | probes | containerImages | volumes | containerVolumeMounts =>
    obtain rfl := List.mem_singleton.mp reads
    rfl
  | _ => exact independent.elim

theorem Rule.ne_containerResources_of_independent (independent : rule.IsIndependent) : rule ≠ .containerResources := by
  rintro rfl
  exact independent

/-- Two independent rules that are not the same. -/
structure Rule.Apart (rule other : Rule) : Prop where
  independent : rule.IsIndependent
  otherIndependent : other.IsIndependent
  different : rule ≠ other

namespace Rule.Apart

theorem symm (apart : rule.Apart other) : other.Apart rule :=
  ⟨apart.otherIndependent, apart.independent, apart.different.symm⟩

theorem writes_eq_reads (apart : rule.Apart other) : rule.writes = rule.reads :=
  writes_of_isLawful (isLawful_of_independent apart.independent)

/-- Neither rule writes what the other one reads. -/
theorem not_mem_writes (apart : rule.Apart other) {aspect : Aspect} (reads : aspect ∈ other.reads) :
    aspect ∉ rule.writes := by
  rw [apart.writes_eq_reads]
  intro writes
  have governs := governor_of_independent apart.independent writes
  exact apart.different (governs.symm.trans (governor_of_independent apart.otherIndependent reads))

/-- What a rule finds of its aspect is the same after the other one. -/
theorem read_mutate (apart : rule.Apart other) (existing desired : Object Deployment) :
    ∀ aspect ∈ other.reads, aspect.read (rule.mutate existing desired).object = aspect.read existing :=
  fun _ reads => rule.read_mutate existing desired (apart.not_mem_writes reads)

/-- The aspect of a rule becomes the same whether the other one runs before or after it. -/
theorem read_mutate_mutate (apart : rule.Apart other) (existing desired : Object Deployment) :
    ∀ aspect ∈ other.reads,
      aspect.read (other.mutate (rule.mutate existing desired).object desired).object =
        aspect.read (rule.mutate (other.mutate existing desired).object desired).object := by
  intro aspect reads
  rw [apart.read_mutate (other.mutate existing desired).object desired aspect reads]
  exact read_mutate_congr desired apart.otherIndependent (apart.read_mutate existing desired) aspect reads

/-- Both rules together create the same structures in either order. -/
theorem isPresent_mutate_mutate (apart : rule.Apart other) (existing desired : Object Deployment) (layer : Layer) :
    layer.isPresent (other.mutate (rule.mutate existing desired).object desired).object.content =
      layer.isPresent (rule.mutate (other.mutate existing desired).object desired).object.content := by
  obtain ⟨created, decided⟩ := rule.createdAlike_mutate desired layer apart.independent existing
  obtain ⟨createdByOther, decidedByOther⟩ := other.createdAlike_mutate desired layer apart.otherIndependent existing
  -- what a rule creates by itself it creates after the other one, whose structures are not taken away
  rw [decidedByOther _ (apart.read_mutate existing desired), decided _ (apart.symm.read_mutate existing desired),
    decided existing fun _ _ => rfl, decidedByOther existing fun _ _ => rfl]
  exact Bool.or_right_comm _ created createdByOther

/-- Both rules together leave the same deployment in either order. -/
theorem object_mutate_mutate (apart : rule.Apart other) (existing desired : Object Deployment) :
    (other.mutate (rule.mutate existing desired).object desired).object =
      (rule.mutate (other.mutate existing desired).object desired).object := by
  -- an aspect is that of one of the rules, and the other one neither reads nor writes it, or it is nobody's
  refine ext_of_aspects (fun aspect => ?_) (apart.isPresent_mutate_mutate existing desired) ?_ ?_
  · by_cases ofOther : aspect ∈ other.reads
    · exact apart.read_mutate_mutate existing desired aspect ofOther
    · by_cases own : aspect ∈ rule.reads
      · exact (apart.symm.read_mutate_mutate existing desired aspect own).symm
      · rw [← apart.symm.writes_eq_reads] at ofOther
        rw [← apart.writes_eq_reads] at own
        rw [other.read_mutate _ desired ofOther, rule.read_mutate _ desired own, rule.read_mutate _ desired own,
          other.read_mutate _ desired ofOther]
  · rw [initContainers_mutate desired apart.otherIndependent, initContainers_mutate desired apart.independent,
      initContainers_mutate desired apart.independent, initContainers_mutate desired apart.otherIndependent]
  · have own := ne_containerResources_of_independent apart.independent
    have ofOther := ne_containerResources_of_independent apart.otherIndependent
    rw [rest_mutate _ desired ofOther, rest_mutate _ desired own, rest_mutate _ desired own, rest_mutate _ desired ofOther]

end Rule.Apart

/-- Independent rules commute. -/
theorem Rule.commutes_of_independent (independent : rule.IsIndependent) (otherIndependent : other.IsIndependent)
    (desired : Object Deployment) : rule.mutate.Commutes other.mutate desired := by
  by_cases same : rule = other
  · subst same
    exact fun existing => .refl _
  · have apart : rule.Apart other := ⟨independent, otherIndependent, same⟩
    refine Mutate.commutes_of_apart (fun existing => ?_) (fun existing => ?_) (fun existing failure refusal => ?_)
      fun existing => apart.object_mutate_mutate existing desired
    · exact other.outcome_mutate_congr desired (apart.read_mutate existing desired)
    · exact rule.outcome_mutate_congr desired (apart.symm.read_mutate existing desired)
    · intro refused refusedByOther
      rw [failure_of_independent desired independent refused,
        failure_of_independent desired otherIndependent refusedByOther]

end Order

/-- The order of independent rules in a chain does not matter. In any two orders the chain is refused alike, or
reports the same and leaves the same deployment, whatever structures of the existing one are absent. -/
theorem independent_rules_in_any_order {rules reordered : List Rule} (permuted : rules.Perm reordered)
    (independent : ∀ rule ∈ rules, rule.IsIndependent) (existing desired : Object Deployment) :
    let mutation := (Mutator.chain (rules.map (@Mutator.rule .deployment))).mutate existing desired
    let other := (Mutator.chain (reordered.map (@Mutator.rule .deployment))).mutate existing desired
    (mutation.Succeeds ↔ other.Succeeds) ∧ mutation.outcome = other.outcome ∧
      (mutation.Succeeds → mutation.object = other.object) := by
  have commute : ∀ first ∈ rules.map Rule.mutate, ∀ second ∈ rules.map Rule.mutate,
      first.Commutes second desired := by
    intro first within second among
    obtain ⟨rule, listed, rfl⟩ := List.mem_map.mp within
    obtain ⟨other, alsoListed, rfl⟩ := List.mem_map.mp among
    exact Rule.commutes_of_independent (independent rule listed) (independent other alsoListed) desired
  have agrees := Mutate.chain_agrees_of_perm (permuted.map Rule.mutate) commute existing
  rw [Mutator.mutate_chain, Mutator.mutate_chain, List.map_map, List.map_map]
  exact ⟨agrees.succeeds_iff, agrees.outcome, agrees.object⟩

/-- A deployment without a specification is given one by four rules, from the first to the last or the other way
round. -/
theorem independent_rules_in_any_order_of_absent_spec :
    let rules : List Rule := [.replicas, .podTemplateLabels, .priorityClass, .args]
    let existing : Object Deployment := ⟨{ name := some "web" }, {}⟩
    let desired : Object Deployment :=
      ⟨{ name := some "web" },
        { spec := some
            { replicas := some 2
              selector := default
              template :=
                { metadata := some { labels := some (.ofList [("app", "web")]) }
                  spec := some { containers := [], priorityClassName := some "high" } } } }⟩
    let forwards := (Mutator.chain (rules.map (@Mutator.rule .deployment))).mutate existing desired
    let backwards := (Mutator.chain (rules.reverse.map (@Mutator.rule .deployment))).mutate existing desired
    forwards.outcome = .ok true ∧ backwards.outcome = .ok true ∧ forwards.object = backwards.object := by
  intro rules existing desired forwards backwards
  have changed : forwards.outcome = .ok true := rfl
  obtain ⟨-, sameOutcome, sameObject⟩ := independent_rules_in_any_order rules.reverse_perm.symm
    (by simp [rules, Rule.IsIndependent]) existing desired
  exact ⟨changed, sameOutcome.symm.trans changed, sameObject ⟨true, changed⟩⟩

end Reconciliation.Deployment
