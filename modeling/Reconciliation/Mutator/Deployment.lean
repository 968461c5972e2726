import Reconciliation.Merge
import Reconciliation.Mutation
import Reconciliation.Object.Kind
import Reconciliation.Requirements

/-! # Mutators of deployments

Each rule governs one part of a deployment, so that whoever reconciles chooses which fields follow the
desired object after creation. Absent structures on the way to a governed field are created.

Containers are paired by their places. Some rules refuse a deployment whose number of containers is
not the desired one; those for volume mounts and environment variables leave it alone instead.
-/

namespace Reconciliation

namespace Deployment

/-- The specification, with defaults if it is absent. -/
def specOrDefault (deployment : Deployment) : DeploymentSpec := deployment.spec.getD default

def setSpec (deployment : Deployment) (spec : DeploymentSpec) : Deployment :=
  { deployment with spec := some spec }

def template? (deployment : Deployment) : Option PodTemplateSpec := deployment.spec.map (·.template)

def setTemplate (deployment : Deployment) (template : PodTemplateSpec) : Deployment :=
  deployment.setSpec { deployment.specOrDefault with template }

def podSpec? (deployment : Deployment) : Option PodSpec := deployment.template?.bind (·.spec)

/-- What the pods run, with defaults if it is absent. -/
def podSpecOrDefault (deployment : Deployment) : PodSpec := deployment.podSpec?.getD default

def setPodSpec (deployment : Deployment) (spec : PodSpec) : Deployment :=
  deployment.setTemplate { deployment.specOrDefault.template with spec := some spec }

def containers (deployment : Deployment) : List Container := deployment.podSpecOrDefault.containers

def setContainers (deployment : Deployment) (containers : List Container) : Deployment :=
  deployment.setPodSpec { deployment.podSpecOrDefault with containers }

/-- The init containers; an absent list is an empty one. -/
def initContainers (deployment : Deployment) : List Container :=
  deployment.podSpecOrDefault.initContainers.getD []

/-- Set the init containers, or make them absent. -/
def setInitContainers (deployment : Deployment) (containers : Option (List Container)) : Deployment :=
  deployment.setPodSpec { deployment.podSpecOrDefault with initContainers := containers }

/-- The volumes; an absent list is an empty one. -/
def volumes (deployment : Deployment) : List Volume := deployment.podSpecOrDefault.volumes.getD []

def setVolumes (deployment : Deployment) (volumes : Option (List Volume)) : Deployment :=
  deployment.setPodSpec { deployment.podSpecOrDefault with volumes }

/-- The metadata of the pods, with defaults if they are absent. -/
def podMetadata (deployment : Deployment) : ObjectMeta :=
  deployment.specOrDefault.template.metadata.getD default

def setPodMetadata (deployment : Deployment) (metadata : ObjectMeta) : Deployment :=
  deployment.setTemplate { deployment.specOrDefault.template with metadata := some metadata }

end Deployment

/-- An optional field of what pods run. -/
structure PodField (α : Type) where
  get : PodSpec → Option α
  set : Option α → PodSpec → PodSpec

namespace Deployment

variable {α : Type}

/-- Make a field of what the pods run equal to the desired one; nothing is created if it already is. -/
def followPodField [DecidableEq α] (field : PodField α) (existing desired : Deployment) : Edit Deployment :=
  let wanted := field.get desired.podSpecOrDefault
  if field.get existing.podSpecOrDefault = wanted then .keep existing
  else ⟨existing.setPodSpec (field.set wanted existing.podSpecOrDefault), true⟩

/-- Edit the containers in pairs. -/
def editContainers (edit : Container → Container → Edit Container) (existing desired : Deployment) :
    Edit Deployment :=
  (Edit.pairs edit existing.containers desired.containers).map existing.setContainers

/-- Edit the init containers in pairs; if there are none, there is nothing to edit. -/
def editInitContainers (edit : Container → Container → Edit Container) (existing desired : Deployment) :
    Edit Deployment :=
  match existing.podSpecOrDefault.initContainers with
  | none => .keep (existing.setInitContainers none)
  | some current =>
      (Edit.pairs edit current desired.initContainers).map fun containers =>
        existing.setInitContainers (some containers)

/-- Edit the containers in pairs, or tell why not if there are not as many as desired. -/
def pairContainers (edit : Container → Container → Edit Container) (existing desired : Deployment) :
    Except String (Edit Deployment) :=
  let current := existing.containers.length
  let wanted := desired.containers.length
  if current = wanted then .ok (editContainers edit existing desired)
  else .error ("existing has " ++ toString current ++ " containers, desired has " ++ toString wanted)

/-- Edit the containers in pairs unless there are not as many as desired. -/
def editEqualContainers (edit : Container → Container → Edit Container) (existing desired : Deployment) :
    Edit Deployment :=
  if existing.containers.length = desired.containers.length then editContainers edit existing desired
  else .keep existing

/-- Edit the init containers in pairs unless there are not as many as desired. -/
def editEqualInitContainers (edit : Container → Container → Edit Container) (existing desired : Deployment) :
    Edit Deployment :=
  if existing.initContainers.length = desired.initContainers.length then
    editInitContainers edit existing desired
  else .keep existing

/-- Merge a map of the metadata of the pods, if the desired pods have metadata. -/
def mergePodMetadata (get : ObjectMeta → Option StringMap)
    (set : Option StringMap → ObjectMeta → ObjectMeta) (existing desired : Deployment) : Edit Deployment :=
  match desired.template?.bind (·.metadata) with
  | none => .keep existing
  | some wanted =>
      let metadata := existing.podMetadata
      (Merge.merge (get metadata) (get wanted)).map fun map => existing.setPodMetadata (set map metadata)

/-- The number of pods follows only if the desired one is set; otherwise an autoscaler has it. -/
def followReplicas (existing desired : Deployment) : Edit Deployment :=
  match desired.spec.bind (·.replicas) with
  | none => .keep existing
  | some wanted =>
      let spec := existing.specOrDefault
      (Edit.replace spec.replicas (some wanted)).map fun replicas =>
        existing.setSpec { spec with replicas }

def followStrategy (existing desired : Deployment) : Edit Deployment :=
  let spec := existing.specOrDefault
  (Edit.replace spec.strategy (desired.spec.bind (·.strategy))).map fun strategy =>
    existing.setSpec { spec with strategy }

/-- Make there be exactly as many containers as the given ones by taking these, unless there is one. -/
def ensureOneContainer (wanted : List Container) (existing : Deployment) : Edit Deployment :=
  if existing.containers.length = 1 then .keep existing else ⟨existing.setContainers wanted, true⟩

/-- Give the first container the resources of another, unless they are the same. -/
def followResources (wanted : Container) (existing : Deployment) : Edit Deployment :=
  match existing.containers with
  | [] => .keep existing
  | first :: rest =>
      if ResourceRequirements.same first.resources wanted.resources then .keep existing
      else ⟨existing.setContainers ({ first with resources := wanted.resources } :: rest), true⟩

/-- The resources of the one container. Other than one desired container is refused; other than one
existing container is replaced. -/
def followContainerResources (existing desired : Deployment) : Except String (Edit Deployment) :=
  match desired.containers with
  | [wanted] => .ok ((ensureOneContainer [wanted] existing).bind (followResources wanted))
  | wanted =>
      .error ("desired spec.template.spec.containers has " ++ toString wanted.length ++
        " entries, expected 1")

def editArgs (current wanted : Container) : Edit Container :=
  (Edit.replace current.args wanted.args).map fun args => { current with args }

/-- The probes of liveness and readiness. -/
def editProbes (current wanted : Container) : Edit Container :=
  ((Edit.replace current.livenessProbe wanted.livenessProbe).map fun livenessProbe =>
      { current with livenessProbe }).bind fun current =>
    (Edit.replace current.readinessProbe wanted.readinessProbe).map fun readinessProbe =>
      { current with readinessProbe }

def editImage (current wanted : Container) : Edit Container :=
  (Edit.replace current.image wanted.image).map fun image => { current with image }

def editVolumeMounts (current wanted : Container) : Edit Container :=
  (Edit.replace current.volumeMounts wanted.volumeMounts).map fun volumeMounts =>
    { current with volumeMounts }

def editNamedVolumeMounts (names : List String) (current wanted : Container) : Edit Container :=
  (Edit.namedEach VolumeMount.name names current.volumeMounts (wanted.volumeMounts.getD [])).map
    fun volumeMounts => { current with volumeMounts }

def editEnvVar (name : String) (current wanted : Container) : Edit Container :=
  (Edit.named EnvVar.name name current.env (wanted.env.getD [])).map fun env => { current with env }

/-- The images of init containers follow by place; init containers beyond the existing ones are added,
and none is removed. -/
def followInitContainerImages (existing desired : Deployment) : Edit Deployment :=
  if desired.initContainers.isEmpty then .keep existing
  else
    (Edit.pairsOrAdded editImage existing.initContainers desired.initContainers).map fun containers =>
      existing.setInitContainers (some containers)

/-- Volumes in the order of their names; those of the same name stay in order. -/
def sortedVolumes (deployment : Deployment) : List Volume :=
  deployment.volumes.mergeSort fun a b => a.name ≤ b.name

/-- The volumes become the desired ones unless they are the same in some order. -/
def followVolumes (existing desired : Deployment) : Edit Deployment :=
  if existing.sortedVolumes = desired.sortedVolumes then .keep existing
  else ⟨existing.setVolumes desired.podSpecOrDefault.volumes, true⟩

/-- The volumes of the given names follow. -/
def followNamedVolumes (names : List String) (existing desired : Deployment) : Edit Deployment :=
  (Edit.namedEach Volume.name names existing.podSpecOrDefault.volumes desired.volumes).map
    existing.setVolumes

/-- The init containers become the desired ones: those that are too many are cut off, and the others
are replaced where they differ and added where they are missing. -/
def followInitContainers (existing desired : Deployment) : Edit Deployment :=
  let current := existing.initContainers
  let wanted := desired.initContainers
  if current = wanted then .keep existing
  else
    let cut : Edit (List Container) := ⟨current.take wanted.length, decide (wanted.length < current.length)⟩
    (cut.bind fun current => Edit.pairsOrAdded Edit.replace current wanted).map fun containers =>
      existing.setInitContainers (some containers)

/-- The environment variable of one name follows in every container, unless there are not as many
containers and init containers as desired. -/
def followEnvVar (name : String) (existing desired : Deployment) : Edit Deployment :=
  if existing.containers.length = desired.containers.length ∧
      existing.initContainers.length = desired.initContainers.length then
    (editInitContainers (editEnvVar name) existing desired).bind fun existing =>
      editContainers (editEnvVar name) existing desired
  else .keep existing

/-- The variables whose names are neither among the given ones nor those of earlier variables. -/
def firstOfEachName (seen : List String) : List EnvVar → List EnvVar
  | [] => []
  | first :: rest =>
      if seen.contains first.name then firstOfEachName seen rest
      else first :: firstOfEachName (first.name :: seen) rest

/-- Drop every variable whose name an earlier one has. -/
def dropRepeatedEnvVars (container : Container) : Edit Container :=
  match container.env with
  | none => .keep container
  | some env =>
      let kept := firstOfEachName [] env
      ⟨{ container with env := some kept }, kept.length != env.length⟩

/-- Edit every container by itself. -/
def editEachContainer (edit : Container → Edit Container) (existing : Deployment) : Edit Deployment :=
  match existing.podSpec? with
  | none => .keep existing
  | some _ =>
      let edits := existing.containers.map edit
      ⟨existing.setContainers (edits.map (·.value)), edits.any (·.changed)⟩

/-- The parts of a deployment that can be governed. -/
inductive Rule
  | annotations
  | replicas
  | containerResources
  | affinity
  | tolerations
  | priorityClass
  | topologySpreadConstraints
  | podTemplateLabels
  | podTemplateAnnotations
  | strategy
  | args
  | probes
  | containerImages
  | initContainerImages
  | volumes
  | containerVolumeMounts
  | podInitContainers
  | initContainerVolumeMounts
  | removeDuplicateEnvVars
  | namedVolumes (names : List String)
  | namedContainerVolumeMounts (names : List String)
  | namedInitContainerVolumeMounts (names : List String)
  | envVar (name : String)
deriving DecidableEq, Repr

/-- How a deployment is called in texts. -/
def describe (deployment : Object Deployment) : String := "Deployment/" ++ deployment.nameAny

def followAnnotations (existing desired : Object Deployment) : Edit (Object Deployment) :=
  (Merge.merge existing.metadata.annotations desired.metadata.annotations).map fun annotations =>
    { existing with metadata.annotations := annotations }

/-- The mutator of an edit that may refuse. A refusal leaves the deployment as it is. -/
def mutateUnlessRefused (edit : Deployment → Deployment → Except String (Edit Deployment)) :
    Mutate (Object Deployment) := fun existing desired =>
  match edit existing.content desired.content with
  | .ok edit => .done (edit.map existing.withContent)
  | .error reason => .refused existing (.invariantViolation (describe desired) reason)

/-- The mutator of a rule. -/
def Rule.mutate : Rule → Mutate (Object Deployment)
  | annotations => .ofEdit followAnnotations
  | replicas => .ofContentEdit followReplicas
  | containerResources => mutateUnlessRefused followContainerResources
  | affinity => .ofContentEdit <| followPodField ⟨(·.affinity), fun affinity spec => { spec with affinity }⟩
  | tolerations =>
      .ofContentEdit <| followPodField ⟨(·.tolerations), fun tolerations spec => { spec with tolerations }⟩
  | priorityClass =>
      .ofContentEdit <| followPodField
        ⟨(·.priorityClassName), fun priorityClassName spec => { spec with priorityClassName }⟩
  | topologySpreadConstraints =>
      .ofContentEdit <| followPodField
        ⟨(·.topologySpreadConstraints),
          fun topologySpreadConstraints spec => { spec with topologySpreadConstraints }⟩
  | podTemplateLabels =>
      .ofContentEdit <| mergePodMetadata (·.labels) fun labels metadata => { metadata with labels }
  | podTemplateAnnotations =>
      .ofContentEdit <| mergePodMetadata (·.annotations) fun annotations metadata =>
        { metadata with annotations }
  | strategy => .ofContentEdit followStrategy
  | args => mutateUnlessRefused <| pairContainers editArgs
  | probes => mutateUnlessRefused <| pairContainers editProbes
  | containerImages => mutateUnlessRefused <| pairContainers editImage
  | initContainerImages => .ofContentEdit followInitContainerImages
  | volumes => .ofContentEdit followVolumes
  | containerVolumeMounts => .ofContentEdit (editEqualContainers editVolumeMounts)
  | podInitContainers => .ofContentEdit followInitContainers
  | initContainerVolumeMounts => .ofContentEdit (editEqualInitContainers editVolumeMounts)
  | removeDuplicateEnvVars => .ofContentEdit fun existing _ => editEachContainer dropRepeatedEnvVars existing
  | namedVolumes names => .ofContentEdit (followNamedVolumes names)
  | namedContainerVolumeMounts names => .ofContentEdit (editEqualContainers (editNamedVolumeMounts names))
  | namedInitContainerVolumeMounts names =>
      .ofContentEdit (editEqualInitContainers (editNamedVolumeMounts names))
  | envVar name => .ofContentEdit (followEnvVar name)

/-- The rules for most workloads. The number of pods is left out on purpose. -/
def genericRules : List Rule :=
  [.annotations, .containerResources, .affinity, .tolerations, .podTemplateLabels, .priorityClass,
    .topologySpreadConstraints, .podTemplateAnnotations, .args, .probes, .containerImages,
    .initContainerImages]

end Deployment

end Reconciliation
