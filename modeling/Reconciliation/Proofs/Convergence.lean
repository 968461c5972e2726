import Reconciliation.Proofs.PassEffect
import Reconciliation.Proofs.StackSettling

/-! # A pass converges

On a server that is steady and filed, a pass over a stack that has succeeded leaves all its parts settled, whatever
there was before. The next pass over the same stack then only reads, changes nothing and succeeds.
-/

namespace Reconciliation.AppStack

open Api

variable {stack : Stack}

/-- The mutators of all parts settle at the objects that the stack wants. -/
theorem parts_settle (stack : Stack) : ∀ part ∈ parts stack, part.Settles := by
  simp only [parts, List.forall_mem_cons]
  refine ⟨?serviceAccount, ?deployment, ?service, ?budget, ?monitor, fun _ within => absurd within List.not_mem_nil⟩
  case serviceAccount =>
    exact ⟨fun desired _ => ServiceAccount.Rule.lawful .imagePullSecrets desired, .rule trivial⟩
  case deployment =>
    have bounded : ∀ container ∈ (deployment stack).content.containers,
        ResourceRequirements.isBounded container.resources = true := by
      intro only within
      rw [List.mem_singleton.mp within]
      rfl
    refine ⟨fun desired same => ?_, .chain fun member within => ?_⟩
    · exact deploymentMutator_settlesAt (same ▸ bounded)
    · obtain ⟨rule, -, rfl⟩ := List.mem_map.mp within
      refine .rule ?_
      cases rule with
      | containerResources => exact ⟨rfl, bounded⟩
      | removeDuplicateEnvVars =>
        intro only among
        rw [List.mem_singleton.mp among]
        exact List.nodup_nil
      | _ => trivial
  case service =>
    refine ⟨fun desired _ => serviceMutator_settlesAt desired, .chain fun member within => ?_⟩
    rcases List.mem_pair.mp within with rfl | rfl <;> exact .rule trivial
  case budget => exact ⟨fun desired _ => PodDisruptionBudget.Rule.lawful .spec desired, .rule trivial⟩
  case monitor => exact ⟨fun desired _ => SpecRule.lawful .spec desired, .rule trivial⟩

section Pass

variable {name namespaceName uid : String} {server : Server}

/-- If a pass over a stack succeeds, whatever the server held before, the next one succeeds, only reads, and leaves
the server as it is. -/
theorem pass_converges (isLive : IsLive stack name namespaceName uid) (steady : server.IsSteady)
    (filed : server.IsFiled) {next : Next}
    (success : ((serve (pass stack)).run Server.handler server).result = .ok next) :
    let first := (serve (pass stack)).run Server.handler server
    let second := (serve (pass stack)).run Server.handler first.state
    second.result = .ok .interval ∧ (∀ exchange ∈ second.exchanges, exchange.request.method = "GET") ∧
      second.state = first.state := by
  intro first second
  have reached := reached_of_pass isLive steady filed
  have settled := reached.isSettled steady (parts_settle stack) ((pass_succeeds_iff isLive steady filed).mp success).2
  have again := @attempts_of_settled (ownerOf name namespaceName uid) _ name (parts stack) .unknown isLive.proper
    (name_of_parts isLive.named) reached.steady reached.filed (Server.knows_unknown _) settled
  rw [← state_pass isLive] at again
  have runs := runOf_attempts isLive.live isLive.owned Server.handler first.state
  refine ⟨runs.succeeds.mpr fun attempt among => (again attempt among).1, ?_, ?_⟩
  · intro exchange asked
    rw [runs.exchanges] at asked
    obtain ⟨attempt, among, asked⟩ := List.mem_flatMap.mp asked
    exact (again attempt among).2.2 exchange asked
  · exact (state_pass isLive first.state).trans (stateAfter_eq_self fun attempt among => (again attempt among).2.1)

end Pass

/-- A stack without a budget meets an account with a secret of the platform, a deployment of two containers that is
known by the start of its name, and a budget. The pass updates the first two and deletes the third. -/
theorem pass_converges_of_earlier_objects :
    let stack : Stack := ⟨{ name := some "shop", namespaceName := some "prod", uid := some "1" },
      ⟨{ image := "shop:1.0", port := 8080, podDisruptionBudget := false, monitoring := true }⟩⟩
    let metadata : ObjectMeta :=
      { generateName := some "shop", namespaceName := some "prod", resourceVersion := some "7" }
    let account : Kind.serviceAccount.Object :=
      ⟨metadata, { imagePullSecrets := some [⟨"old"⟩, ⟨"shop-token-1"⟩] }⟩
    let containers : List Container :=
      [{ name := "web", env := some [{ name := "A" }, { name := "A" }] }, { name := "log" }]
    let deployment : Kind.deployment.Object :=
      ⟨metadata, { spec := some { selector := {}, template := { spec := some { containers } } } }⟩
    let budget : Kind.podDisruptionBudget.Object := ⟨metadata, {}⟩
    let served : ServedGroup := ⟨"monitoring.coreos.com", [⟨"v1", [⟨"servicemonitors", "ServiceMonitor"⟩]⟩]⟩
    let server := (((⟨.empty, [served], [], []⟩ : Server).place ⟨.serviceAccount, account⟩).place
      ⟨.deployment, deployment⟩).place ⟨.podDisruptionBudget, budget⟩
    let first := (serve (pass stack)).run Server.handler server
    let second := (serve (pass stack)).run Server.handler first.state
    first.result = .ok .interval ∧ second.result = .ok .interval ∧
      (∀ exchange ∈ second.exchanges, exchange.request.method = "GET") ∧ second.state = first.state := by
  intro stack metadata account containers deployment budget served server first second
  have isLive : IsLive stack "shop" "prod" "1" := ⟨rfl, rfl, rfl, rfl,
    ⟨⟨by decide, by decide, by decide, by decide⟩, ⟨by decide, by decide, by decide, by decide⟩⟩⟩
  have steady : server.IsSteady := ⟨nofun, nofun⟩
  have filed : server.IsFiled := Server.isFiled_place
    (Server.isFiled_place (Server.isFiled_place (Server.isFiled_empty [served] [] []) _) _) _
  have verdicts : firstFailure ((parts stack).map fun part =>
      (part.verdict (ownerOf "shop" "prod" "1") ⟨"prod", "shop"⟩ server).result) = .ok () := by decide +kernel
  have success : first.result = .ok .interval := by
    rw [result_pass isLive steady filed, verdicts]
    rfl
  exact ⟨success, pass_converges isLive steady filed success⟩

end Reconciliation.AppStack
