import Reconciliation.Mutator.Deployment
import Reconciliation.Proofs.Chains
import Reconciliation.Proofs.ContainerEdits
import Reconciliation.Proofs.Merging

/-! # What rules look at and what they write

A deployment is seen here in aspects, and every rule has some that it reads and some that it writes. Whether a
rule has work to do depends on the aspects that it reads only, and all aspects that it does not write stay as
they are. So rules that write what others do not read leave these in peace, and only rules about the same aspect
have to be compared with each other.
-/

namespace Reconciliation.Deployment

/-- What rules see of a container. -/
inductive Facet
  | args
  | probes
  | image
  | resources
  | volumeMounts
  | env
deriving DecidableEq

namespace Facet

abbrev Value : Facet → Type
  | args => Option (List String)
  | probes => Option Probe × Option Probe
  | image => Option String
  | resources => Option ResourceRequirements
  | volumeMounts => Option (List VolumeMount)
  | env => Option (List EnvVar)

def read : (facet : Facet) → Container → facet.Value
  | args => (·.args)
  | probes => fun container => (container.livenessProbe, container.readinessProbe)
  | image => (·.image)
  | resources => (·.resources)
  | volumeMounts => (·.volumeMounts)
  | env => (·.env)

end Facet

/-- What rules see of a deployment. A facet of the containers is a list with an entry for each of them, so it
tells their number as well. -/
inductive Aspect
  | annotations
  | replicas
  | strategy
  | podLabels
  | podAnnotations
  | affinity
  | tolerations
  | priorityClass
  | topologySpreadConstraints
  | volumes
  | initContainers
  | containers (facet : Facet)
deriving DecidableEq

namespace Aspect

abbrev Value : Aspect → Type
  | annotations | podLabels | podAnnotations => Option StringMap
  | replicas => Option Int32
  | strategy => Option DeploymentStrategy
  | affinity => Option Affinity
  | tolerations => Option (List Toleration)
  | priorityClass => Option String
  | topologySpreadConstraints => Option (List TopologySpreadConstraint)
  | volumes => Option (List Volume)
  | initContainers => List Container
  | containers facet => List facet.Value

def read : (aspect : Aspect) → Object Deployment → aspect.Value
  | annotations, deployment => deployment.metadata.annotations
  | replicas, deployment => deployment.content.specOrDefault.replicas
  | strategy, deployment => deployment.content.specOrDefault.strategy
  | podLabels, deployment => deployment.content.podMetadata.labels
  | podAnnotations, deployment => deployment.content.podMetadata.annotations
  | affinity, deployment => deployment.content.podSpecOrDefault.affinity
  | tolerations, deployment => deployment.content.podSpecOrDefault.tolerations
  | priorityClass, deployment => deployment.content.podSpecOrDefault.priorityClassName
  | topologySpreadConstraints, deployment => deployment.content.podSpecOrDefault.topologySpreadConstraints
  | volumes, deployment => deployment.content.podSpecOrDefault.volumes
  | initContainers, deployment => deployment.content.initContainers
  | containers facet, deployment => deployment.content.containers.map facet.read

/-- The aspects that have to do with containers. -/
def ofContainers : List Aspect :=
  [.containers .args, .containers .probes, .containers .image, .containers .resources,
    .containers .volumeMounts, .containers .env]

theorem mem_ofContainers (facet : Facet) : containers facet ∈ ofContainers := by cases facet <;> decide

end Aspect

/-- The aspects on which it depends whether a rule has work to do. -/
def Rule.reads : Rule → List Aspect
  | annotations => [.annotations]
  | replicas => [.replicas]
  | containerResources => [.containers .resources]
  | affinity => [.affinity]
  | tolerations => [.tolerations]
  | priorityClass => [.priorityClass]
  | topologySpreadConstraints => [.topologySpreadConstraints]
  | podTemplateLabels => [.podLabels]
  | podTemplateAnnotations => [.podAnnotations]
  | strategy => [.strategy]
  | args => [.containers .args]
  | probes => [.containers .probes]
  | containerImages => [.containers .image]
  | initContainerImages => [.initContainers]
  | volumes => [.volumes]
  | containerVolumeMounts => [.containers .volumeMounts]
  | podInitContainers => [.initContainers]
  | initContainerVolumeMounts => [.initContainers]
  | removeDuplicateEnvVars => [.containers .env]
  | namedVolumes _ => [.volumes]
  | namedContainerVolumeMounts _ => [.containers .volumeMounts]
  | namedInitContainerVolumeMounts _ => [.initContainers]
  | envVar _ => [.initContainers, .containers .env]

/-- The aspects that a rule may change. Unless there is one container, the rule for resources replaces all. -/
def Rule.writes : Rule → List Aspect
  | containerResources => Aspect.ofContainers
  | rule => rule.reads

section Edits

variable {α β : Type}

theorem map_value_pairs {edit : α → β → Edit α} {γ : Type} {f : α → γ}
    (keeps : ∀ current wanted, f (edit current wanted).value = f current) (items : List α) (wanted : List β) :
    (Edit.pairs edit items wanted).value.map f = items.map f := by
  induction items generalizing wanted with
  | nil => cases wanted <;> rfl
  | cons item rest ih =>
    cases wanted with
    | nil => rfl
    | cons goal goals => simp only [Edit.pairs, List.map_cons, keeps, ih]

/-- Whether a list is edited in pairs depends only on what the edit of one item depends on. -/
theorem changed_pairs_congr {edit : α → β → Edit α} {γ : Type} {f : α → γ}
    (depends : ∀ a b wanted, f a = f b → (edit a wanted).changed = (edit b wanted).changed) {items others : List α}
    (same : items.map f = others.map f) (wanted : List β) :
    (Edit.pairs edit items wanted).changed = (Edit.pairs edit others wanted).changed := by
  induction items generalizing others wanted with
  | nil =>
    obtain rfl : others = [] := List.map_eq_nil_iff.mp same.symm
    rfl
  | cons item rest ih =>
    obtain ⟨other, more, rfl, here, later⟩ := List.map_eq_cons_iff.mp same.symm
    cases wanted with
    | nil => rfl
    | cons goal goals => simp only [Edit.pairs, depends item other goal here.symm, ih later.symm]

theorem changed_pairsOrAdded_congr {edit : α → α → Edit α} {γ : Type} {f : α → γ}
    (depends : ∀ a b wanted, f a = f b → (edit a wanted).changed = (edit b wanted).changed) {items others : List α}
    (same : items.map f = others.map f) (wanted : List α) :
    (Edit.pairsOrAdded edit items wanted).changed = (Edit.pairsOrAdded edit others wanted).changed := by
  induction items generalizing others wanted with
  | nil =>
    obtain rfl : others = [] := List.map_eq_nil_iff.mp same.symm
    rfl
  | cons item rest ih =>
    obtain ⟨other, more, rfl, here, later⟩ := List.map_eq_cons_iff.mp same.symm
    cases wanted with
    | nil => rfl
    | cons goal goals => simp only [Edit.pairsOrAdded, depends item other goal here.symm, ih later.symm]

end Edits

section Setters

variable (existing : Object Deployment)

/-- Other containers change no aspect but those of containers. -/
theorem read_setContainers {aspect : Aspect} (outside : aspect ∉ Aspect.ofContainers) (containers : List Container) :
    aspect.read (existing.withContent (existing.content.setContainers containers)) = aspect.read existing := by
  cases aspect with
  | containers facet => exact absurd (Aspect.mem_ofContainers facet) outside
  | _ => rfl

theorem read_setInitContainers {aspect : Aspect} (outside : aspect ≠ .initContainers)
    (containers : Option (List Container)) :
    aspect.read (existing.withContent (existing.content.setInitContainers containers)) = aspect.read existing := by
  cases aspect with
  | initContainers => exact absurd rfl outside
  | _ => rfl

theorem read_setVolumes {aspect : Aspect} (outside : aspect ≠ .volumes) (volumes : Option (List Volume)) :
    aspect.read (existing.withContent (existing.content.setVolumes volumes)) = aspect.read existing := by
  cases aspect with
  | volumes => exact absurd rfl outside
  | _ => rfl

end Setters

section Frames

variable (existing desired : Object Deployment)

/-- Containers that are edited in pairs change in no facet but the one that is edited. -/
theorem read_editContainers {facet : Facet} {edit : Container → Container → Edit Container}
    (keeps : ∀ other, other ≠ facet → ∀ current wanted, other.read (edit current wanted).value = other.read current)
    {aspect : Aspect} (outside : aspect ≠ .containers facet) :
    aspect.read (existing.withContent (editContainers edit existing.content desired.content).value) =
      aspect.read existing := by
  cases aspect with
  | containers other =>
    have different : other ≠ facet := fun same => outside (congrArg _ same)
    exact map_value_pairs (keeps other different) _ _
  | _ => rfl

theorem read_editInitContainers (edit : Container → Container → Edit Container) {aspect : Aspect}
    (outside : aspect ≠ .initContainers) :
    aspect.read (existing.withContent (editInitContainers edit existing.content desired.content).value) =
      aspect.read existing := by
  rw [editInitContainers]
  split <;> exact read_setInitContainers existing outside _

end Frames

/-- What init containers become when they are edited in pairs; absent ones are none. -/
theorem initContainers_editInitContainers (edit : Container → Container → Edit Container)
    (existing desired : Deployment) :
    (editInitContainers edit existing desired).value.initContainers =
      (Edit.pairs edit existing.initContainers desired.initContainers).value := by
  rw [editInitContainers]
  split
  · next absent =>
    have nothing : existing.initContainers = [] := by rw [initContainers, absent]; rfl
    rw [nothing]
    cases desired.initContainers <;> rfl
  · next current present =>
    have listed : existing.initContainers = current := by rw [initContainers, present]; rfl
    rw [listed]
    rfl

theorem changed_editInitContainers (edit : Container → Container → Edit Container)
    (existing desired : Deployment) :
    (editInitContainers edit existing desired).changed =
      (Edit.pairs edit existing.initContainers desired.initContainers).changed := by
  rw [editInitContainers]
  split
  · next absent =>
    have nothing : existing.initContainers = [] := by rw [initContainers, absent]; rfl
    rw [nothing]
    cases desired.initContainers <;> rfl
  · next current present =>
    have listed : existing.initContainers = current := by rw [initContainers, present]; rfl
    rw [listed]
    rfl

section Rules

variable (existing desired : Object Deployment)

/-- Creating an absent specification changes no aspect. -/
theorem read_setSpec_self (aspect : Aspect) :
    aspect.read (existing.withContent (existing.content.setSpec existing.content.specOrDefault)) =
      aspect.read existing := by
  obtain ⟨metadata, ⟨spec, status⟩⟩ := existing
  cases spec <;> cases aspect <;> rfl

theorem read_mergePodMetadata {get : ObjectMeta → Option StringMap}
    {set : Option StringMap → ObjectMeta → ObjectMeta} {aspect : Aspect}
    (outside : ∀ map, aspect.read (existing.withContent
        (existing.content.setPodMetadata (set map existing.content.podMetadata))) =
      aspect.read (existing.withContent (existing.content.setSpec existing.content.specOrDefault))) :
    aspect.read (existing.withContent (mergePodMetadata get set existing.content desired.content).value) =
      aspect.read existing := by
  rw [mergePodMetadata]
  split
  · rfl
  · exact (outside _).trans (read_setSpec_self existing aspect)

theorem read_followPodField {α : Type} [DecidableEq α] {field : PodField α} {aspect : Aspect}
    (outside : ∀ value, aspect.read (existing.withContent
        (existing.content.setPodSpec (field.set value existing.content.podSpecOrDefault))) =
      aspect.read existing) :
    aspect.read (existing.withContent (followPodField field existing.content desired.content).value) =
      aspect.read existing := by
  rw [followPodField]
  split
  · rfl
  · exact outside _

theorem read_mutateUnlessRefused {edit : Deployment → Deployment → Except String (Edit Deployment)} {aspect : Aspect}
    (outside : ∀ after, edit existing.content desired.content = .ok after →
      aspect.read (existing.withContent after.value) = aspect.read existing) :
    aspect.read (mutateUnlessRefused edit existing desired).object = aspect.read existing := by
  rw [mutateUnlessRefused]
  split
  · next after success => exact outside after success
  · rfl

/-- Containers that are paired or refused change in no facet but the one that is edited. -/
theorem read_pairContainers {facet : Facet} {edit : Container → Container → Edit Container}
    (keeps : ∀ other, other ≠ facet → ∀ current wanted, other.read (edit current wanted).value = other.read current)
    {aspect : Aspect} (outside : aspect ≠ .containers facet) :
    aspect.read (mutateUnlessRefused (pairContainers edit) existing desired).object = aspect.read existing := by
  refine read_mutateUnlessRefused existing desired fun after success => ?_
  simp only [pairContainers] at success
  split at success
  · cases success
    exact read_editContainers existing desired keeps outside
  · cases success

theorem read_editEqualContainers {facet : Facet} {edit : Container → Container → Edit Container}
    (keeps : ∀ other, other ≠ facet → ∀ current wanted, other.read (edit current wanted).value = other.read current)
    {aspect : Aspect} (outside : aspect ≠ .containers facet) :
    aspect.read (existing.withContent (editEqualContainers edit existing.content desired.content).value) =
      aspect.read existing := by
  rw [editEqualContainers]
  split
  · exact read_editContainers existing desired keeps outside
  · rfl

theorem read_editEqualInitContainers (edit : Container → Container → Edit Container) {aspect : Aspect}
    (outside : aspect ≠ .initContainers) :
    aspect.read (existing.withContent (editEqualInitContainers edit existing.content desired.content).value) =
      aspect.read existing := by
  rw [editEqualInitContainers]
  split
  · exact read_editInitContainers existing desired edit outside
  · rfl

theorem read_followContainerResources {aspect : Aspect} (outside : aspect ∉ Aspect.ofContainers)
    {after : Edit Deployment} (success : followContainerResources existing.content desired.content = .ok after) :
    aspect.read (existing.withContent after.value) = aspect.read existing := by
  obtain ⟨wanted, -, rfl⟩ := followContainerResources_ok success
  rcases settleResources_cases wanted existing.content with ⟨-, -, -, kept⟩ | ⟨container, -, -, settled⟩
  · rw [kept]
    rfl
  · rw [settled]
    exact read_setContainers existing outside [container]

theorem read_dropRepeatedEnvVars {aspect : Aspect} (outside : aspect ≠ .containers .env) :
    aspect.read (existing.withContent (editEachContainer dropRepeatedEnvVars existing.content).value) =
      aspect.read existing := by
  have keeps (facet : Facet) (different : facet ≠ .env) (container : Container) :
      facet.read (dropRepeatedEnvVars container).value = facet.read container := by
    rw [dropRepeatedEnvVars]
    split
    · rfl
    · cases facet with
      | env => exact absurd rfl different
      | _ => rfl
  rw [editEachContainer]
  split
  · rfl
  · cases aspect with
    | containers facet =>
      have different : facet ≠ .env := fun same => outside (congrArg _ same)
      change ((existing.content.containers.map dropRepeatedEnvVars).map (·.value)).map facet.read = _
      rw [List.map_map, List.map_map]
      exact List.map_congr_left fun container _ => keeps facet different container
    | _ => rfl

theorem read_followEnvVar (name : String) {aspect : Aspect} (outside : aspect ≠ .initContainers)
    (elsewhere : aspect ≠ .containers .env) :
    aspect.read (existing.withContent (followEnvVar name existing.content desired.content).value) =
      aspect.read existing := by
  rw [followEnvVar]
  split
  · have keeps (facet : Facet) (different : facet ≠ .env) (current wanted : Container) :
        facet.read (editEnvVar name current wanted).value = facet.read current := by
      cases facet with
      | env => exact absurd rfl different
      | _ => rfl
    have first := read_editInitContainers existing desired (editEnvVar name) outside
    exact (read_editContainers (existing.withContent _) desired keeps elsewhere).trans first
  · rfl

/-- All aspects that a rule does not write stay as they are, whether the rule succeeds or not. -/
theorem Rule.read_mutate (rule : Rule) {aspect : Aspect} (outside : aspect ∉ rule.writes) :
    aspect.read (rule.mutate existing desired).object = aspect.read existing := by
  have other {written : Aspect} (own : written ∈ rule.writes) : aspect ≠ written := fun same => outside (same ▸ own)
  cases rule with
  | annotations =>
    cases aspect with
    | annotations => exact absurd rfl (other (.head _))
    | _ => rfl
  | replicas =>
    simp only [Rule.mutate, Mutate.ofContentEdit, Mutate.ofEdit, Mutation.object_done, Edit.value_map, followReplicas]
    split
    · rfl
    · refine Eq.trans ?_ (read_setSpec_self existing aspect)
      cases aspect with
      | replicas => exact absurd rfl (other (.head _))
      | _ => rfl
  | strategy =>
    refine Eq.trans ?_ (read_setSpec_self existing aspect)
    cases aspect with
    | strategy => exact absurd rfl (other (.head _))
    | _ => rfl
  | podTemplateLabels =>
    refine read_mergePodMetadata existing desired fun map => ?_
    cases aspect with
    | podLabels => exact absurd rfl (other (.head _))
    | _ => rfl
  | podTemplateAnnotations =>
    refine read_mergePodMetadata existing desired fun map => ?_
    cases aspect with
    | podAnnotations => exact absurd rfl (other (.head _))
    | _ => rfl
  | affinity =>
    refine read_followPodField existing desired fun value => ?_
    cases aspect with
    | affinity => exact absurd rfl (other (.head _))
    | _ => rfl
  | tolerations =>
    refine read_followPodField existing desired fun value => ?_
    cases aspect with
    | tolerations => exact absurd rfl (other (.head _))
    | _ => rfl
  | priorityClass =>
    refine read_followPodField existing desired fun value => ?_
    cases aspect with
    | priorityClass => exact absurd rfl (other (.head _))
    | _ => rfl
  | topologySpreadConstraints =>
    refine read_followPodField existing desired fun value => ?_
    cases aspect with
    | topologySpreadConstraints => exact absurd rfl (other (.head _))
    | _ => rfl
  | containerResources =>
    exact read_mutateUnlessRefused existing desired fun after => read_followContainerResources existing desired outside
  | args =>
    refine read_pairContainers existing desired (fun facet different _ _ => ?_) (other (.head _))
    cases facet with
    | args => exact absurd rfl different
    | _ => rfl
  | probes =>
    refine read_pairContainers existing desired (fun facet different _ _ => ?_) (other (.head _))
    cases facet with
    | probes => exact absurd rfl different
    | _ => rfl
  | containerImages =>
    refine read_pairContainers existing desired (fun facet different _ _ => ?_) (other (.head _))
    cases facet with
    | image => exact absurd rfl different
    | _ => rfl
  | containerVolumeMounts | namedContainerVolumeMounts _ =>
    refine read_editEqualContainers existing desired (fun facet different _ _ => ?_) (other (.head _))
    cases facet with
    | volumeMounts => exact absurd rfl different
    | _ => rfl
  | initContainerImages =>
    simp only [Rule.mutate, Mutate.ofContentEdit, Mutate.ofEdit, Mutation.object_done, Edit.value_map,
      followInitContainerImages]
    split
    · rfl
    · exact read_setInitContainers existing (other (.head _)) _
  | podInitContainers =>
    simp only [Rule.mutate, Mutate.ofContentEdit, Mutate.ofEdit, Mutation.object_done, Edit.value_map,
      followInitContainers]
    split
    · rfl
    · exact read_setInitContainers existing (other (.head _)) _
  | initContainerVolumeMounts | namedInitContainerVolumeMounts _ =>
    exact read_editEqualInitContainers existing desired _ (other (.head _))
  | volumes =>
    simp only [Rule.mutate, Mutate.ofContentEdit, Mutate.ofEdit, Mutation.object_done, Edit.value_map, followVolumes]
    split
    · rfl
    · exact read_setVolumes existing (other (.head _)) _
  | namedVolumes names => exact read_setVolumes existing (other (.head _)) _
  | removeDuplicateEnvVars => exact read_dropRepeatedEnvVars existing (other (.head _))
  | envVar name =>
    refine read_followEnvVar existing desired name (other (.head _)) (other (.tail _ (.head _)))

end Rules

section Reports

variable {existing other : Object Deployment} (desired : Object Deployment)

theorem changed_followPodField_congr {α : Type} [DecidableEq α] (field : PodField α)
    (same : field.get existing.content.podSpecOrDefault = field.get other.content.podSpecOrDefault) :
    (followPodField field existing.content desired.content).changed =
      (followPodField field other.content desired.content).changed := by
  simp only [followPodField, same]
  split <;> rfl

theorem changed_mergePodMetadata_congr {get : ObjectMeta → Option StringMap}
    {set : Option StringMap → ObjectMeta → ObjectMeta}
    (same : get existing.content.podMetadata = get other.content.podMetadata) :
    (mergePodMetadata get set existing.content desired.content).changed =
      (mergePodMetadata get set other.content desired.content).changed := by
  simp only [mergePodMetadata]
  split
  · rfl
  · simp only [Edit.changed_map, same]

theorem outcome_mutateUnlessRefused_congr {edit : Deployment → Deployment → Except String (Edit Deployment)}
    (same : (edit existing.content desired.content).map (·.changed) =
      (edit other.content desired.content).map (·.changed)) :
    (mutateUnlessRefused edit existing desired).outcome = (mutateUnlessRefused edit other desired).outcome := by
  simp only [mutateUnlessRefused]
  revert same
  cases edit existing.content desired.content <;> cases edit other.content desired.content <;>
    simp [Except.map]

variable {facet : Facet} {edit : Container → Container → Edit Container}
  (depends : ∀ a b wanted, facet.read a = facet.read b → (edit a wanted).changed = (edit b wanted).changed)
  (same : existing.content.containers.map facet.read = other.content.containers.map facet.read)

include depends same

theorem changed_editContainers_congr :
    (editContainers edit existing.content desired.content).changed =
      (editContainers edit other.content desired.content).changed :=
  changed_pairs_congr depends same _

theorem changed_editEqualContainers_congr :
    (editEqualContainers edit existing.content desired.content).changed =
      (editEqualContainers edit other.content desired.content).changed := by
  have counts : existing.content.containers.length = other.content.containers.length := by
    simpa using congrArg List.length same
  simp only [editEqualContainers, counts]
  split
  · exact changed_editContainers_congr desired depends same
  · rfl

theorem outcome_pairContainers_congr :
    (mutateUnlessRefused (pairContainers edit) existing desired).outcome =
      (mutateUnlessRefused (pairContainers edit) other desired).outcome := by
  have counts : existing.content.containers.length = other.content.containers.length := by
    simpa using congrArg List.length same
  refine outcome_mutateUnlessRefused_congr desired ?_
  simp only [pairContainers, counts]
  split
  · exact congrArg Except.ok (changed_editContainers_congr desired depends same)
  · rfl

omit depends same

theorem changed_editEqualInitContainers_congr {edit : Container → Container → Edit Container}
    (same : existing.content.initContainers = other.content.initContainers) :
    (editEqualInitContainers edit existing.content desired.content).changed =
      (editEqualInitContainers edit other.content desired.content).changed := by
  simp only [editEqualInitContainers, same]
  split
  · rw [changed_editInitContainers, changed_editInitContainers, same]
  · rfl

/-- Resources are followed without a change only if there is one container, and it has them. -/
theorem changed_settleResources (wanted : Container) (existing : Deployment) :
    (settleResources wanted existing).changed =
      match existing.containers.map (·.resources) with
      | [resources] => !ResourceRequirements.same resources wanted.resources
      | _ => true := by
  match listed : existing.containers with
  | [] | _ :: _ :: _ => simp [settleResources_of_not_single, listed]
  | [container] =>
    rw [settleResources_of_single listed, List.map_cons, List.map_nil]
    split
    · next same => simp [same]
    · next different => simp [different]

theorem changed_dropRepeatedEnvVars_congr {a b : Container} (same : a.env = b.env) :
    (dropRepeatedEnvVars a).changed = (dropRepeatedEnvVars b).changed := by
  simp only [dropRepeatedEnvVars, same]
  cases b.env <;> rfl

theorem changed_followEnvVar_congr (name : String)
    (inits : existing.content.initContainers = other.content.initContainers)
    (same : existing.content.containers.map (·.env) = other.content.containers.map (·.env)) :
    (followEnvVar name existing.content desired.content).changed =
      (followEnvVar name other.content desired.content).changed := by
  have counts : existing.content.containers.length = other.content.containers.length := by
    simpa using congrArg List.length same
  have depends (a b wanted : Container) (same : a.env = b.env) :
      (editEnvVar name a wanted).changed = (editEnvVar name b wanted).changed := by
    simp only [editEnvVar, Edit.changed_map, same]
  have kept (deployment : Deployment) :
      (editInitContainers (editEnvVar name) deployment desired.content).value.containers =
        deployment.containers := by
    rw [editInitContainers]
    split <;> rfl
  simp only [followEnvVar, counts, inits]
  split
  · rw [Edit.changed_bind, Edit.changed_bind, changed_editInitContainers, changed_editInitContainers, inits]
    simp only [editContainers, Edit.changed_map, kept]
    rw [changed_pairs_congr depends same]
  · rfl

/-- What a rule reports depends on nothing but the aspects that it reads. -/
theorem Rule.outcome_mutate_congr (rule : Rule)
    (same : ∀ aspect ∈ rule.reads, aspect.read existing = aspect.read other) :
    (rule.mutate existing desired).outcome = (rule.mutate other desired).outcome := by
  have own : ∀ {aspect : Aspect}, aspect ∈ rule.reads → aspect.read existing = aspect.read other :=
    fun {aspect} => same aspect
  cases rule with
  | annotations =>
    have annotations := own (.head _)
    exact congrArg (fun annotations => Except.ok (Merge.merge annotations desired.metadata.annotations).changed)
      annotations
  | replicas =>
    have replicas := own (.head _)
    simp only [Aspect.read] at replicas
    simp only [Rule.mutate, Mutate.ofContentEdit, Mutate.ofEdit, Mutation.outcome_done, Edit.changed_map,
      followReplicas]
    split
    · rfl
    · simp only [Edit.changed_map, replicas]
  | strategy =>
    exact congrArg (fun strategy => Except.ok (Edit.replace strategy _).changed) (own (.head _))
  | podTemplateLabels | podTemplateAnnotations =>
    exact congrArg Except.ok (changed_mergePodMetadata_congr desired (own (.head _)))
  | affinity | tolerations | priorityClass | topologySpreadConstraints =>
    exact congrArg Except.ok (changed_followPodField_congr desired _ (own (.head _)))
  | containerResources =>
    have resources : existing.content.containers.map (·.resources) = other.content.containers.map (·.resources) :=
      own (.head _)
    refine outcome_mutateUnlessRefused_congr desired ?_
    simp only [followContainerResources_eq]
    split
    · simp only [Except.map, changed_settleResources, resources]
    · rfl
  | args =>
    refine @outcome_pairContainers_congr existing other desired .args editArgs
      (fun a b wanted same => ?_) (own (.head _))
    exact congrArg (fun args => (Edit.replace args wanted.args).changed) same
  | probes =>
    refine @outcome_pairContainers_congr existing other desired .probes editProbes (fun a b wanted same => ?_)
      (own (.head _))
    obtain ⟨liveness, readiness⟩ := Prod.mk.inj same
    simp only [editProbes, Edit.changed_bind, Edit.changed_map, Edit.value_map, liveness, readiness]
  | containerImages =>
    refine @outcome_pairContainers_congr existing other desired .image editImage (fun a b wanted same => ?_)
      (own (.head _))
    exact congrArg (fun image => (Edit.replace image wanted.image).changed) same
  | containerVolumeMounts =>
    refine congrArg Except.ok (@changed_editEqualContainers_congr existing other desired .volumeMounts
      editVolumeMounts (fun a b wanted same => ?_) (own (.head _)))
    exact congrArg (fun mounts => (Edit.replace mounts wanted.volumeMounts).changed) same
  | namedContainerVolumeMounts names =>
    refine congrArg Except.ok (@changed_editEqualContainers_congr existing other desired .volumeMounts
      (editNamedVolumeMounts names) (fun a b wanted same => ?_) (own (.head _)))
    exact congrArg (fun mounts => (Edit.namedEach VolumeMount.name names mounts _).changed) same
  | initContainerImages =>
    have inits : existing.content.initContainers = other.content.initContainers := own (.head _)
    simp only [Rule.mutate, Mutate.ofContentEdit, Mutate.ofEdit, Mutation.outcome_done, Edit.changed_map,
      followInitContainerImages, inits]
    split <;> rfl
  | podInitContainers =>
    have inits : existing.content.initContainers = other.content.initContainers := own (.head _)
    simp only [Rule.mutate, Mutate.ofContentEdit, Mutate.ofEdit, Mutation.outcome_done, Edit.changed_map,
      followInitContainers, inits]
    split <;> rfl
  | initContainerVolumeMounts | namedInitContainerVolumeMounts _ =>
    exact congrArg Except.ok (changed_editEqualInitContainers_congr desired (own (.head _)))
  | volumes =>
    have sorted : existing.content.sortedVolumes = other.content.sortedVolumes :=
      congrArg (fun volumes : Option (List Volume) => (volumes.getD []).mergeSort _) (own (.head _))
    simp only [Rule.mutate, Mutate.ofContentEdit, Mutate.ofEdit, Mutation.outcome_done, Edit.changed_map,
      followVolumes, sorted]
    split <;> rfl
  | namedVolumes names =>
    exact congrArg (fun volumes => Except.ok (Edit.namedEach Volume.name names volumes _).changed) (own (.head _))
  | removeDuplicateEnvVars =>
    have env : existing.content.containers.map (·.env) = other.content.containers.map (·.env) := own (.head _)
    have through (containers : List Container) :
        (containers.any fun container => (dropRepeatedEnvVars container).changed) =
          (containers.map (·.env)).any fun env => (dropRepeatedEnvVars { name := "", env }).changed := by
      rw [List.any_map]
      congr 1
      funext container
      exact changed_dropRepeatedEnvVars_congr rfl
    refine congrArg Except.ok ?_
    simp only [Edit.changed_map, changed_editEachContainer, through, env]
  | envVar name =>
    exact congrArg Except.ok (changed_followEnvVar_congr desired name (own (.head _)) (own (.tail _ (.head _))))

end Reports

/-- A rule gives no work to one that reads nothing of what it writes. -/
theorem Rule.spares_of_disjoint {rule other : Rule} (apart : ∀ aspect ∈ other.reads, aspect ∉ rule.writes)
    (desired : Object Deployment) : rule.mutate.Spares other.mutate desired := by
  intro existing _ quiet
  have kept := other.outcome_mutate_congr desired fun aspect read =>
    rule.read_mutate existing desired (apart aspect read)
  exact kept.trans quiet

end Reconciliation.Deployment
