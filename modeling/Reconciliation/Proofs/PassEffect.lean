import Reconciliation.Proofs.Settlement

/-! # What a pass comes to

On a server that is steady and filed, a pass over a stack that can be found is one attempt at each of its parts. It
ends as the verdicts on what there is at its start say, and leaves at the place of each part what the verdict on that
part leaves, and everything else as it was.
-/

namespace Reconciliation.AppStack

open Api

variable {stack : Stack}

/-- All parts have the same metadata. -/
theorem metadata_of_parts (stack : Stack) : ∀ part ∈ parts stack, part.desired.metadata = partMetadata stack := by
  simp only [parts, List.forall_mem_cons]
  exact ⟨rfl, rfl, rfl, rfl, rfl, fun _ within => absurd within List.not_mem_nil⟩

/-- All parts are called like the stack. -/
theorem name_of_parts {name : String} (named : stack.metadata.name = some name) :
    ∀ part ∈ parts stack, part.desired.metadata.name = some name := by
  intro part within
  rw [metadata_of_parts stack part within]
  exact congrArg some (ObjectMeta.nameAny_of_named named)

/-- An owner that is a stack. -/
def ownerOf (name namespaceName uid : String) : Owner :=
  ⟨namespaceName,
    { apiVersion := Kind.appStack.apiVersion, controller := some true, kind := Kind.appStack.name, name, uid }⟩

/-- A stack that can be found: it is not being deleted, it is persisted, and its name and namespace are proper. -/
structure IsLive (stack : Stack) (name namespaceName uid : String) : Prop where
  live : stack.metadata.deletionTimestamp = none
  named : stack.metadata.name = some name
  within : stack.metadata.namespaceName = some namespaceName
  identified : stack.metadata.uid = some uid
  proper : (⟨namespaceName, name⟩ : Place).IsProper

section Pass

variable {name namespaceName uid : String} {server : Server}

theorem IsLive.owned (isLive : IsLive stack name namespaceName uid) :
    Owner.ofObject .appStack stack = .ok (ownerOf name namespaceName uid) := by
  simp only [Owner.ofObject, isLive.within, isLive.named, isLive.identified, ownerOf]

theorem distinct_parts (stack : Stack) : ((parts stack).map (·.kind)).Nodup := kind_parts stack ▸ by decide

theorem reached_of_pass (isLive : IsLive stack name namespaceName uid) (steady : server.IsSteady)
    (filed : server.IsFiled) :
    Reached (ownerOf name namespaceName uid) ⟨namespaceName, name⟩ (parts stack) server
      (attempts Server.handler (ownerOf name namespaceName uid) (parts stack) .unknown server) :=
  @reached_of_attempts (ownerOf name namespaceName uid) server name (parts stack) .unknown isLive.proper
    (name_of_parts isLive.named) (distinct_parts stack) steady filed server.knows_unknown

theorem state_pass (isLive : IsLive stack name namespaceName uid) (server : Server) :
    ((serve (pass stack)).run Server.handler server).state =
      stateAfter server (attempts Server.handler (ownerOf name namespaceName uid) (parts stack) .unknown server) :=
  congrArg (·.state) (run_pass isLive.live isLive.owned Server.handler server)

/-- A pass ends as the verdicts on what there is at its start say. -/
theorem result_pass (isLive : IsLive stack name namespaceName uid) (steady : server.IsSteady) (filed : server.IsFiled) :
    ((serve (pass stack)).run Server.handler server).result =
      (firstFailure ((parts stack).map fun part =>
        (part.verdict (ownerOf name namespaceName uid) ⟨namespaceName, name⟩ server).result)).map
        fun _ => .interval := by
  rw [run_pass isLive.live isLive.owned]
  have results := (reached_of_pass isLive steady filed).results
  exact congrArg (fun results => (firstFailure results).map fun _ => Next.interval) results

/-- A pass succeeds exactly if all verdicts on what there is at its start do. -/
theorem pass_succeeds_iff (isLive : IsLive stack name namespaceName uid) (steady : server.IsSteady)
    (filed : server.IsFiled) {next : Next} :
    ((serve (pass stack)).run Server.handler server).result = .ok next ↔ next = .interval ∧ ∀ part ∈ parts stack,
      ∃ outcome, (part.verdict (ownerOf name namespaceName uid) ⟨namespaceName, name⟩ server).result = .ok outcome := by
  rw [result_pass isLive steady filed]
  refine Iff.trans ?_ (and_congr_right' (firstFailure_eq_ok_iff.trans List.forall_mem_map))
  cases firstFailure _ with
  | error failure => exact iff_of_false nofun nofun
  | ok done => exact ⟨fun same => ⟨(Except.ok.inj same).symm, rfl⟩, fun ⟨same, _⟩ => congrArg Except.ok same.symm⟩

/-- A pass leaves a server that is steady and filed, and that serves the same kinds. -/
theorem tidy_pass (isLive : IsLive stack name namespaceName uid) (steady : server.IsSteady) (filed : server.IsFiled) :
    let left := ((serve (pass stack)).run Server.handler server).state
    left.IsSteady ∧ left.IsFiled ∧
      ∀ groupVersion kind, left.serves groupVersion kind = server.serves groupVersion kind := by
  rw [state_pass isLive]
  have reached := reached_of_pass isLive steady filed
  exact ⟨reached.steady, reached.filed, reached.serves⟩

/-- At the end of a pass there is at the place of each part what the verdict on it leaves. -/
theorem held_pass (isLive : IsLive stack name namespaceName uid) (steady : server.IsSteady) (filed : server.IsFiled)
    {part : Part} (within : part ∈ parts stack) :
    ((serve (pass stack)).run Server.handler server).state.held part.kind ⟨namespaceName, name⟩ =
      (part.verdict (ownerOf name namespaceName uid) ⟨namespaceName, name⟩ server).leaves
        (server.held part.kind ⟨namespaceName, name⟩) := by
  rw [state_pass isLive]
  exact (reached_of_pass isLive steady filed).held part within

theorem held_pass_of_other (isLive : IsLive stack name namespaceName uid) (steady : server.IsSteady)
    (filed : server.IsFiled) {kind : Kind} (other : kind ∉ partKinds) :
    ((serve (pass stack)).run Server.handler server).state.held kind ⟨namespaceName, name⟩ =
      server.held kind ⟨namespaceName, name⟩ := by
  rw [state_pass isLive]
  exact (reached_of_pass isLive steady filed).others kind (kind_parts stack ▸ other)

end Pass

end Reconciliation.AppStack
