import Reconciliation.Proofs.StackSettling

/-! # Mutators that track a specification

Deployment and service of a stack are built from its specification. What the mutator of each makes of an object that
was built from another specification is again built from one. Of the deployment only the image and the number of pods
follow, the latter unless it is left open; of the service the port does.
-/

namespace Reconciliation

namespace Mutate

variable {σ ρ α : Type} {desired : α} {build : σ → α}

/-- The mutator takes an object that is built from something to the one that is built from what comes `next`, and
reports every change. -/
def Tracks (mutate : Mutate α) (desired : α) (build : σ → α) (next : σ → σ) : Prop :=
  ∀ source, ∃ changed, mutate (build source) desired = .done ⟨build (next source), changed⟩ ∧
    (changed = false → build (next source) = build source)

/-- A chain does what its members do one after the other. -/
theorem chain_tracks {mutate : ρ → Mutate α} {next : ρ → σ → σ} {rules : List ρ}
    (track : ∀ rule ∈ rules, (mutate rule).Tracks desired build (next rule)) :
    (chain (rules.map mutate)).Tracks desired build fun source =>
      rules.foldl (fun source rule => next rule source) source := by
  induction rules with
  | nil => exact fun source => ⟨false, rfl, fun _ => rfl⟩
  | cons rule rest ih =>
    obtain ⟨here, track⟩ := List.forall_mem_cons.mp track
    intro source
    obtain ⟨changed, done, reported⟩ := here source
    obtain ⟨further, later, others⟩ := ih track (next rule source)
    refine ⟨changed || further, ?_, fun unchanged => ?_⟩
    · rw [List.map_cons, chain_cons, done, Mutation.andThen_of_ok (Mutation.outcome_done _), Mutation.object_done, later]
      rfl
    · obtain ⟨first, second⟩ := Bool.or_eq_false_iff.mp unchanged
      exact (others second).trans (reported first)

end Mutate

namespace AppStack

open Deployment

variable {stack : Stack}

/-- The stack with another specification. -/
def withSpec (stack : Stack) (spec : AppStackSpec) : Stack := { stack with content := ⟨spec⟩ }

/-- The specification that a deployment is in line with after a change: the image follows, and so does the number of
pods unless the second specification leaves it open. -/
def specAfter (first second : AppStackSpec) : AppStackSpec :=
  { first with image := second.image, replicas := second.replicas.or first.replicas }

section Governed

variable {metadata : ObjectMeta} {spec : AppStackSpec}

/-- What a rule makes of the specification that a deployment was built from. -/
def followInDeployment (rule : Deployment.Rule) (wanted current : AppStackSpec) : AppStackSpec :=
  match rule with
  | .containerImages => { current with image := wanted.image }
  | .replicas => { current with replicas := wanted.replicas.or current.replicas }
  | _ => current

/-- What a rule makes of the specification that a service was built from. -/
def followInService (rule : Service.Rule) (wanted current : AppStackSpec) : AppStackSpec :=
  match rule with
  | .ports => { current with port := wanted.port }
  | .selector => current

/-- Only two of the rules make a difference to the deployment of another specification. -/
theorem deploymentRule_tracks {rule : Deployment.Rule} (listed : rule ∈ deploymentRules) {desired : Object Deployment}
    (content : desired.content = (deployment (withSpec stack spec)).content)
    (annotations : desired.metadata.annotations = metadata.annotations) :
    rule.mutate.Tracks desired (fun current => ⟨metadata, (deployment (withSpec stack current)).content⟩)
      (followInDeployment rule spec) := by
  intro current
  obtain ⟨wanted, _⟩ := desired
  subst content
  cases rule with
  | containerImages =>
    refine ⟨decide (some current.image ≠ some spec.image) || false, rfl, fun unchanged => ?_⟩
    have same : current.image = spec.image := by simpa using unchanged
    rw [followInDeployment, ← same]
  | replicas =>
    obtain ⟨image, count, port, budget, monitoring⟩ := spec
    cases count with
    | none => exact ⟨false, rfl, fun _ => rfl⟩
    | some count =>
      refine ⟨decide (current.replicas ≠ some count), rfl, fun unchanged => ?_⟩
      have same : current.replicas = some count := by simpa using unchanged
      rw [followInDeployment, Option.some_or, ← same]
  | annotations =>
    have merged := Merge.merge_self metadata.annotations
    have same : wanted.annotations = metadata.annotations := annotations
    refine ⟨false, ?_, fun _ => rfl⟩
    simp only [Rule.mutate, Mutate.ofEdit, followAnnotations, same, merged, Edit.map_keep]
    rfl
  | podTemplateLabels =>
    have merged := Merge.merge_self (some (selectorLabels stack))
    exact ⟨false, congrArg (fun labels : Edit (Option StringMap) => Mutation.done (labels.map fun labels =>
      (⟨metadata, (deployment (withSpec stack current)).content.setPodMetadata { labels }⟩ : Object Deployment))) merged,
      fun _ => rfl⟩
  | containerResources | affinity | tolerations | priorityClass | topologySpreadConstraints | podTemplateAnnotations | args
  | probes | initContainerImages | removeDuplicateEnvVars => exact ⟨false, rfl, fun _ => rfl⟩
  | strategy | volumes | containerVolumeMounts | podInitContainers | initContainerVolumeMounts =>
    exact absurd listed (by decide)
  | namedVolumes names | namedContainerVolumeMounts names | namedInitContainerVolumeMounts names | envVar name =>
    simp [deploymentRules, genericRules] at listed

theorem deploymentMutator_tracks {desired : Object Deployment}
    (content : desired.content = (deployment (withSpec stack spec)).content)
    (annotations : desired.metadata.annotations = metadata.annotations) :
    deploymentMutator.mutate.Tracks desired
      (fun current => (⟨metadata, (deployment (withSpec stack current)).content⟩ : Object Deployment))
      fun current => specAfter current spec := by
  rw [mutate_deploymentMutator]
  exact Mutate.chain_tracks fun rule listed => deploymentRule_tracks listed content annotations

theorem serviceRule_tracks (rule : Service.Rule) {desired : Object Service}
    (content : desired.content = (service (withSpec stack spec)).content) :
    rule.mutate.Tracks desired (fun current => ⟨metadata, (service (withSpec stack current)).content⟩)
      (followInService rule spec) := by
  intro current
  obtain ⟨wanted, _⟩ := desired
  subst content
  cases rule with
  | ports =>
    refine ⟨_, rfl, fun unchanged => ?_⟩
    have same : current.port = spec.port := by
      simpa [service, withSpec, Service.followPorts, Service.specOrDefault] using unchanged
    rw [followInService, ← same]
  | selector =>
    have kept : Edit.replace (some (selectorLabels stack)) (some (selectorLabels stack)) = .keep _ :=
      Edit.replace_self _
    exact ⟨false, congrArg (fun edit : Edit (Option StringMap) => Mutation.done (edit.map fun selector =>
      (⟨metadata, ⟨some { (service (withSpec stack current)).content.specOrDefault with selector }⟩⟩ : Object Service)))
      kept, fun _ => rfl⟩

theorem serviceMutator_tracks {desired : Object Service}
    (content : desired.content = (service (withSpec stack spec)).content) :
    serviceMutator.mutate.Tracks desired
      (fun current => (⟨metadata, (service (withSpec stack current)).content⟩ : Object Service))
      fun current => { current with port := spec.port } := by
  rw [mutate_serviceMutator]
  exact Mutate.chain_tracks fun rule _ => serviceRule_tracks rule content

end Governed

end AppStack

end Reconciliation
