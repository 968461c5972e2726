import Reconciliation.Proofs.Convergence
import Reconciliation.Proofs.FirstPass
import Reconciliation.Proofs.Tracking

/-! # A pass after the specification has changed

Where none of its objects are there, a pass over a stack creates them as its specification says. If the specification
changes, the next pass brings all objects in line with it, up to what no rule of the deployment governs: the port of
the container stays the one of the first specification, while the port of the service becomes that of the second. The
number of pods stays as well where the second specification leaves it open.
-/

namespace Reconciliation.AppStack

open Api Deployment

variable {stack : Stack}

/-- A deployment that is in line with the specification after a change is in line with the second one exactly if the port
is the same and the number of pods has not been given up. -/
theorem created_deployment_eq_iff (owner : Owner) (first second : AppStackSpec) :
    @Owner.created .deployment owner (deployment (withSpec stack (specAfter first second))) =
        @Owner.created .deployment owner (deployment (withSpec stack second)) ↔
      first.port = second.port ∧ (second.replicas = none → first.replicas = none) := by
  obtain ⟨image, count, port, budget, monitoring⟩ := second
  constructor
  · intro same
    have specs := congrArg (fun created : Object Deployment => created.content.specOrDefault) same
    have ports := congrArg
      (fun spec : DeploymentSpec => (spec.template.spec.getD default).containers.map (·.ports)) specs
    have counts := congrArg (·.replicas) specs
    refine ⟨by simpa [deployment, withSpec, specAfter, container, Owner.created, specOrDefault] using ports, ?_⟩
    rintro rfl
    exact counts
  · rintro ⟨rfl, given⟩
    cases count with
    | none => simp only [specAfter, given rfl, Option.or_none]; rfl
    | some count => rfl

theorem deployment_mem_parts (stack : Stack) :
    ⟨.deployment, deployment stack, deploymentMutator, true⟩ ∈ parts stack := by
  simp [parts]

theorem service_mem_parts (stack : Stack) : ⟨.service, service stack, serviceMutator, true⟩ ∈ parts stack := by
  simp [parts]

/-- All parts but two depend on the specification in their toggles only. -/
theorem part_cases (stack : Stack) (spec : AppStackSpec) : ∀ part ∈ parts (withSpec stack spec),
    part = ⟨.deployment, deployment (withSpec stack spec), deploymentMutator, true⟩ ∨
      part = ⟨.service, service (withSpec stack spec), serviceMutator, true⟩ ∨
      ∃ enabled, { part with enabled } ∈ parts stack := by
  simp only [parts, List.forall_mem_cons]
  refine ⟨?account, .inl trivial, .inr (.inl trivial), ?budget, ?monitor,
    fun _ within => absurd within List.not_mem_nil⟩
  case account => exact .inr (.inr ⟨true, .head _⟩)
  case budget => exact .inr (.inr ⟨stack.content.spec.podDisruptionBudget, .tail _ (.tail _ (.tail _ (.head _)))⟩)
  case monitor => exact .inr (.inr ⟨stack.content.spec.monitoring, .tail _ (.tail _ (.tail _ (.tail _ (.head _))))⟩)

section Pass

variable {name namespaceName uid : String} {server : Server}

theorem isLive_withSpec (isLive : IsLive stack name namespaceName uid) (spec : AppStackSpec) :
    IsLive (withSpec stack spec) name namespaceName uid :=
  ⟨isLive.live, isLive.named, isLive.within, isLive.identified, isLive.proper⟩

section Change

variable (isLive : IsLive stack name namespaceName uid) (steady : server.IsSteady) (filed : server.IsFiled)
  (absent : ∀ kind ∈ partKinds, server.held kind ⟨namespaceName, name⟩ = none) (spec : AppStackSpec)

include isLive steady filed absent

/-- What a part becomes that is created in a first pass, if its mutator tracks the specification that it was built
from. -/
theorem yields_after_change {kind : Kind} {desired : Stack → kind.Object} {mutator : Mutator kind}
    (listed : ∀ stack, ⟨kind, desired stack, mutator, true⟩ ∈ parts stack) (required : kind.isOptional = false)
    (always : kind.isToggled = false) {next : AppStackSpec → AppStackSpec}
    (track : mutator.mutate.Tracks (desired (withSpec stack spec))
      (fun current => (ownerOf name namespaceName uid).created (desired (withSpec stack current))) next) :
    let first := (serve (pass stack)).run Server.handler server
    let part : Part := ⟨kind, desired (withSpec stack spec), mutator, true⟩
    (part.verdict (ownerOf name namespaceName uid) ⟨namespaceName, name⟩ first.state).Yields
      (first.state.held kind ⟨namespaceName, name⟩)
      (some ((ownerOf name namespaceName uid).created (desired (withSpec stack (next stack.content.spec))))) := by
  intro first part
  have created := Part.yields_of_absent isLive (listed stack) required always
    (absent kind (kind_parts stack ▸ List.mem_map_of_mem (listed stack)))
  have held := (held_pass isLive steady filed (listed stack)).trans created.2
  have same : (desired stack).metadata = partMetadata stack := metadata_of_parts stack _ (listed stack)
  obtain ⟨changed, mutated, reported⟩ := track stack.content.spec
  exact Part.yields_of_created (isLive_withSpec isLive spec) (listed (withSpec stack spec))
    required always held same mutated
    reported

/-- The deployment follows the image and the number of pods, and nothing else. -/
theorem deployment_after_change :
    let first := (serve (pass stack)).run Server.handler server
    let part : Part := ⟨.deployment, deployment (withSpec stack spec), deploymentMutator, true⟩
    (part.verdict (ownerOf name namespaceName uid) ⟨namespaceName, name⟩ first.state).Yields
      (first.state.held .deployment ⟨namespaceName, name⟩)
      (some (@Owner.created .deployment (ownerOf name namespaceName uid)
        (deployment (withSpec stack (specAfter stack.content.spec spec))))) := by
  have track : deploymentMutator.mutate.Tracks (deployment (withSpec stack spec))
      (fun current => @Owner.created .deployment (ownerOf name namespaceName uid) (deployment (withSpec stack current)))
      (fun current => specAfter current spec) :=
    @deploymentMutator_tracks stack (@Owner.created .deployment (ownerOf name namespaceName uid) (deployment stack)).metadata
      spec (deployment (withSpec stack spec)) rfl rfl
  exact yields_after_change isLive steady filed absent spec deployment_mem_parts rfl rfl track

/-- The service follows the port. -/
theorem service_after_change :
    let first := (serve (pass stack)).run Server.handler server
    let part : Part := ⟨.service, service (withSpec stack spec), serviceMutator, true⟩
    (part.verdict (ownerOf name namespaceName uid) ⟨namespaceName, name⟩ first.state).Yields
      (first.state.held .service ⟨namespaceName, name⟩)
      (some (@Owner.created .service (ownerOf name namespaceName uid) (service (withSpec stack spec)))) := by
  have track : serviceMutator.mutate.Tracks (service (withSpec stack spec))
      (fun current => @Owner.created .service (ownerOf name namespaceName uid) (service (withSpec stack current)))
      (fun current => { current with port := spec.port }) :=
    @serviceMutator_tracks stack (@Owner.created .service (ownerOf name namespaceName uid) (service stack)).metadata
      spec (service (withSpec stack spec)) rfl
  exact yields_after_change isLive steady filed absent spec service_mem_parts rfl rfl track

/-- A part of which at most the toggle depends on the specification becomes what a first pass with the second
specification leaves. -/
theorem toggled_after_change {part : Part} (among : part ∈ parts (withSpec stack spec)) {enabled : Bool}
    (within : { part with enabled } ∈ parts stack)
    (success : ((serve (pass stack)).run Server.handler server).result = .ok .interval) :
    let first := (serve (pass stack)).run Server.handler server
    ∃ fresh, (part.verdict (ownerOf name namespaceName uid) ⟨namespaceName, name⟩ server).Yields none fresh ∧
      (part.verdict (ownerOf name namespaceName uid) ⟨namespaceName, name⟩ first.state).Yields
        (first.state.held part.kind ⟨namespaceName, name⟩) fresh := by
  intro first
  have nothing := absent part.kind (kind_parts (withSpec stack spec) ▸ List.mem_map_of_mem among)
  have left := held_pass isLive steady filed within
  dsimp only at left
  rw [nothing] at left
  have bare := ownerReferences_of_parts _ part among
  obtain ⟨outcome, success⟩ := ((pass_succeeds_iff isLive steady filed).mp success).2 _ within
  obtain ⟨-, -, serves⟩ := tidy_pass isLive steady filed
  exact Part.yields_toggled (parts_settle _ part among) bare serves nothing success left

/-- Whatever the second specification is, the second pass succeeds as well. -/
theorem pass_succeeds_after_change
    (success : ((serve (pass stack)).run Server.handler server).result = .ok .interval) :
    let first := (serve (pass stack)).run Server.handler server
    ((serve (pass (withSpec stack spec))).run Server.handler first.state).result = .ok .interval := by
  intro first
  obtain ⟨tidy, inPlace, -⟩ := tidy_pass isLive steady filed
  refine (pass_succeeds_iff (isLive_withSpec isLive spec) tidy inPlace).mpr ⟨rfl, fun part among => ?_⟩
  rcases part_cases stack spec part among with rfl | rfl | ⟨enabled, within⟩
  · exact (deployment_after_change isLive steady filed absent spec).1
  · exact (service_after_change isLive steady filed absent spec).1
  · obtain ⟨fresh, -, yields⟩ := toggled_after_change isLive steady filed absent spec among within success
    exact yields.1

/-- Everything but the deployment is what a first pass with the second specification leaves. -/
theorem held_after_change (success : ((serve (pass stack)).run Server.handler server).result = .ok .interval)
    {kind : Kind} (other : kind ≠ .deployment) :
    let changed := withSpec stack spec
    let first := (serve (pass stack)).run Server.handler server
    let second := (serve (pass changed)).run Server.handler first.state
    let fresh := (serve (pass changed)).run Server.handler server
    second.state.held kind ⟨namespaceName, name⟩ = fresh.state.held kind ⟨namespaceName, name⟩ := by
  intro changed first second fresh
  have isLive' := isLive_withSpec isLive spec
  obtain ⟨tidy, inPlace, -⟩ := tidy_pass isLive steady filed
  by_cases listed : kind ∈ partKinds
  · rw [← kind_parts changed] at listed
    obtain ⟨part, among, rfl⟩ := List.mem_map.mp listed
    have nothing := absent part.kind (kind_parts changed ▸ listed)
    rw [held_pass isLive' tidy inPlace among, held_pass isLive' steady filed among]
    rcases part_cases stack spec part among with rfl | rfl | ⟨enabled, within⟩
    · exact absurd rfl other
    · exact (service_after_change isLive steady filed absent spec).2.trans
        (Part.yields_of_absent isLive' among rfl rfl nothing).2.symm
    · obtain ⟨left, created, again⟩ := toggled_after_change isLive steady filed absent spec among within success
      exact again.2.trans (nothing ▸ created.2.symm)
  · exact (held_pass_of_other isLive' tidy inPlace listed).trans
      ((held_pass_of_other isLive steady filed listed).trans (held_pass_of_other isLive' steady filed listed).symm)

/-- The port of the container stays the one of the first specification. -/
theorem containerPorts_after_change :
    let first := (serve (pass stack)).run Server.handler server
    let second := (serve (pass (withSpec stack spec))).run Server.handler first.state
    (second.state.held .deployment ⟨namespaceName, name⟩).map (fun deployment : Object Deployment =>
      deployment.content.containers.map (·.ports)) =
        some [some [{ name := some portName, containerPort := stack.content.spec.port }]] := by
  intro first second
  obtain ⟨tidy, inPlace, -⟩ := tidy_pass isLive steady filed
  have held : second.state.held .deployment ⟨namespaceName, name⟩ = _ :=
    (held_pass (isLive_withSpec isLive spec) tidy inPlace (deployment_mem_parts _)).trans
      (deployment_after_change isLive steady filed absent spec).2
  rw [held]
  rfl

/-- After a successful first pass, the second one succeeds for any other specification. It brings the service in line with
that, as it does all other parts but the deployment, of which only the image and the number of pods follow. The
deployment is as a first pass would have created it exactly if the port is the same and the number of pods has not been
given up. -/
theorem objects_after_change (success : ((serve (pass stack)).run Server.handler server).result = .ok .interval) :
    let owner := ownerOf name namespaceName uid
    let place : Place := ⟨namespaceName, name⟩
    let changed := withSpec stack spec
    let first := (serve (pass stack)).run Server.handler server
    let second := (serve (pass changed)).run Server.handler first.state
    let fresh := (serve (pass changed)).run Server.handler server
    second.result = .ok .interval ∧
      second.state.held .deployment place = some
        (@Owner.created .deployment owner (deployment (withSpec stack (specAfter stack.content.spec spec)))) ∧
      second.state.held .service place = some (@Owner.created .service owner (service changed)) ∧
      (∀ kind ≠ .deployment, second.state.held kind place = fresh.state.held kind place) ∧
      (second.state.held .deployment place = fresh.state.held .deployment place ↔
        stack.content.spec.port = spec.port ∧ (spec.replicas = none → stack.content.spec.replicas = none)) := by
  intro owner place changed first second fresh
  have isLive' := isLive_withSpec isLive spec
  obtain ⟨tidy, inPlace, -⟩ := tidy_pass isLive steady filed
  have deployed : second.state.held .deployment place = _ :=
    (held_pass isLive' tidy inPlace (deployment_mem_parts changed)).trans
      (deployment_after_change isLive steady filed absent spec).2
  have exposed : second.state.held .service place = _ :=
    (held_pass isLive' tidy inPlace (service_mem_parts changed)).trans
      (service_after_change isLive steady filed absent spec).2
  have anew : fresh.state.held .deployment place = _ :=
    (held_pass isLive' steady filed (deployment_mem_parts changed)).trans
      (Part.yields_of_absent isLive' (deployment_mem_parts changed) rfl rfl (absent .deployment (by decide))).2
  refine ⟨pass_succeeds_after_change isLive steady filed absent spec success, deployed, exposed,
    fun kind other => held_after_change isLive steady filed absent spec success other, ?_⟩
  rw [deployed, anew, Option.some_inj]
  exact created_deployment_eq_iff owner stack.content.spec spec

end Change

end Pass

/-- The second specification has another image and port, has no budget any more, and leaves the number of pods open. -/
theorem objects_after_change_of_image :
    let stack : Stack := ⟨{ name := some "shop", namespaceName := some "prod", uid := some "1" },
      ⟨{ image := "shop:1.0", replicas := some 3, port := 8080, podDisruptionBudget := true, monitoring := true }⟩⟩
    let spec : AppStackSpec := { image := "shop:2.0", port := 9090, podDisruptionBudget := false, monitoring := true }
    let server : Server :=
      ⟨.empty, [⟨"monitoring.coreos.com", [⟨"v1", [⟨"servicemonitors", "ServiceMonitor"⟩]⟩]⟩], [], []⟩
    let owner := ownerOf "shop" "prod" "1"
    let place : Place := ⟨"prod", "shop"⟩
    let changed := withSpec stack spec
    let first := (serve (pass stack)).run Server.handler server
    let second := (serve (pass changed)).run Server.handler first.state
    let fresh := (serve (pass changed)).run Server.handler server
    second.result = .ok .interval ∧
      second.state.held .deployment place = some
        (@Owner.created .deployment owner (deployment (withSpec stack (specAfter stack.content.spec spec)))) ∧
      second.state.held .service place = some (@Owner.created .service owner (service changed)) ∧
      (∀ kind ≠ .deployment, second.state.held kind place = fresh.state.held kind place) ∧
      (second.state.held .deployment place = fresh.state.held .deployment place ↔
        stack.content.spec.port = spec.port ∧ (spec.replicas = none → stack.content.spec.replicas = none)) := by
  intro stack spec server
  have isLive : IsLive stack "shop" "prod" "1" := ⟨rfl, rfl, rfl, rfl,
    ⟨⟨by decide, by decide, by decide, by decide⟩, ⟨by decide, by decide, by decide, by decide⟩⟩⟩
  have steady : server.IsSteady := ⟨nofun, nofun⟩
  have filed : server.IsFiled := Server.isFiled_empty _ _ _
  have absent : ∀ kind ∈ partKinds, server.held kind ⟨"prod", "shop"⟩ = none := fun _ _ => rfl
  have answered : server.serves "monitoring.coreos.com/v1" "ServiceMonitor" = .ok true := by rfl
  exact objects_after_change isLive steady filed absent spec
    (pass_succeeds_of_absent isLive steady filed absent answered)

/-- A change of the port does not reach the container: not every second pass that succeeds leaves a deployment whose
container has the port of the second specification. -/
theorem port_not_followed :
    ¬ ∀ (stack : Stack) (name namespaceName uid : String) (server : Server) (spec : AppStackSpec),
      IsLive stack name namespaceName uid → server.IsSteady → server.IsFiled →
      (∀ kind ∈ partKinds, server.held kind ⟨namespaceName, name⟩ = none) →
      let first := (serve (pass stack)).run Server.handler server
      let second := (serve (pass (withSpec stack spec))).run Server.handler first.state
      first.result = .ok .interval → second.result = .ok .interval →
      (second.state.held .deployment ⟨namespaceName, name⟩).map (fun deployment : Object Deployment =>
        deployment.content.containers.map (·.ports)) =
          some [some [{ name := some "http", containerPort := spec.port }]] := by
  intro claim
  have isLive : IsLive ⟨{ name := some "shop", namespaceName := some "prod", uid := some "1" },
      ⟨{ image := "shop:1.0", port := 8080, podDisruptionBudget := false, monitoring := false }⟩⟩ "shop" "prod" "1" :=
    ⟨rfl, rfl, rfl, rfl,
      ⟨⟨by decide, by decide, by decide, by decide⟩, ⟨by decide, by decide, by decide, by decide⟩⟩⟩
  have steady : (⟨.empty, [], [], []⟩ : Server).IsSteady := ⟨nofun, nofun⟩
  have filed : (⟨.empty, [], [], []⟩ : Server).IsFiled := Server.isFiled_empty _ _ _
  have absent : ∀ kind ∈ partKinds, (⟨.empty, [], [], []⟩ : Server).held kind ⟨"prod", "shop"⟩ = none := fun _ _ => rfl
  have answered :
      (⟨.empty, [], [], []⟩ : Server).serves "monitoring.coreos.com/v1" "ServiceMonitor" = .ok false := by
    rfl
  have success := pass_succeeds_of_absent isLive steady filed absent answered
  let spec : AppStackSpec := { image := "shop:1.0", port := 9090, podDisruptionBudget := false, monitoring := false }
  have again := pass_succeeds_after_change isLive steady filed absent spec success
  have stale := containerPorts_after_change isLive steady filed absent spec
  have followed := claim _ _ _ _ _ spec isLive steady filed absent success again
  exact absurd (stale.symm.trans followed) (by decide)

end Reconciliation.AppStack
