import Reconciliation.Proofs.Idempotence
import Reconciliation.Proofs.KindSettling

/-! # Creating and calling again

An object is created as it is desired, without the mutators. A second call then compares it with the
desired one by way of every mutator, and has nothing to do if all of them find the desired object in order.
-/

namespace Reconciliation

namespace Reconcile

variable {kind : Kind} {owner : Owner} {mutate : Mutate kind.Object} {wanted existing : kind.Object}

/-- A call on an object in line with the wanted one, but for the mutator, answers that nothing has changed
exactly if the mutator reports no change. -/
theorem effect_unchanged_iff (follows : existing.metadata.follow wanted.metadata = .keep existing.metadata)
    (adopted : owner.adopt kind existing = .done (.keep existing)) (inventory : Inventory) :
    ((verdictOnExisting owner mutate wanted existing).effect inventory).1 = .ok .unchanged ↔
      (mutate existing wanted).outcome = .ok false := by
  rw [verdictOnExisting_of_adopted follows adopted]
  split
  · next failure refused => simp [Verdict.effect, refused]
  · next changed =>
    simp only [changed, Except.ok.injEq, Bool.true_eq_false, iff_false]
    intro success
    have wrong := (Verdict.apply_of_effect_ok success).1
    cases wrong
  · next unchanged => simp [Verdict.effect, unchanged]

/-- What is created follows the wanted object and is adopted already, and it is like the wanted one. -/
theorem adopted_in_line {changed : Bool} (adopted : (owner.adopt kind wanted).outcome = .ok changed) :
    (owner.adopt kind wanted).object.metadata.follow wanted.metadata =
        .keep (owner.adopt kind wanted).object.metadata ∧
      owner.adopt kind (owner.adopt kind wanted).object = .done (.keep (owner.adopt kind wanted).object) ∧
      kind.Alike (owner.adopt kind wanted).object wanted := by
  refine ⟨?_, Owner.adopt_of_adopted adopted rfl, ?_⟩
  · obtain ⟨references, same⟩ := owner.object_adopt wanted
    rw [same]
    exact ObjectMeta.follow_eq_keep_iff.mpr ⟨rfl, rfl, Merge.merge_self _, Merge.merge_self _⟩
  · obtain ⟨references, same⟩ := owner.object_adopt wanted
    rw [same]
    exact ⟨rfl, rfl⟩

/-- Where there is no object, a wanted one that nobody else controls is created. -/
theorem effect_of_absent (mutate : Mutate kind.Object)
    (untagged : wanted.metadata.isTaggedForDeletion = false) {changed : Bool}
    (adopted : (owner.adopt kind wanted).outcome = .ok changed) {namespaceName name : String}
    (within : wanted.metadata.namespaceName = some namespaceName) (named : wanted.metadata.name = some name)
    {inventory : Inventory} (absent : inventory.contains kind ⟨namespaceName, name⟩ = false) :
    (verdict owner mutate wanted none).effect inventory =
      (.ok .created, inventory.put ⟨namespaceName, name⟩ ⟨kind, (owner.adopt kind wanted).object⟩) := by
  have place : (owner.adopt kind wanted).object.metadata.place = ⟨namespaceName, name⟩ :=
    (place_adopt owner wanted).trans (ObjectMeta.place_of_named within named)
  have free : ¬ inventory.contains kind ⟨namespaceName, name⟩ = true := by simp [absent]
  rw [verdict_none_of_untagged untagged, adopted]
  simp only [Verdict.effect, MemoryStore.apply, Resource.place, place, if_neg free]
  rfl

end Reconcile

/-- Where there is no object, one that nobody else controls is created. The second call for the same desired object
answers that nothing has changed if every mutator finds the desired object in order. It does so only if every mutator
suits that object, and then it only reads. -/
theorem created_then_unchanged {kind : Kind} (owner : Owner) (members : List (Mutator kind))
    {desired : kind.Object} {name : String} (named : desired.metadata.name = some name)
    (untagged : desired.metadata.isTaggedForDeletion = false)
    (free : ∀ reference ∈ desired.metadata.references, ¬ owner.isForeignController reference)
    {inventory : Inventory} (absent : inventory.contains kind ⟨owner.namespaceName, name⟩ = false)
    (probe : ScriptedProbe) :
    let call := reconcile owner (Mutator.chain members).mutate desired
    let first := call.run MemoryCluster.handler (.calm inventory probe)
    let second := call.run MemoryCluster.handler first.state
    first.result = .ok .created ∧
      ((∀ member ∈ members, member.Accepts desired.content) → second.result = .ok .unchanged) ∧
      (second.result = .ok .unchanged → (∀ member ∈ members, member.Suits desired.content) ∧
        second.requests = [.get kind owner.namespaceName name] ∧ second.state = first.state) := by
  intro call first second
  let wanted := desired.inNamespace owner.namespaceName
  have called : wanted.metadata.name = some name := named
  have asked : wanted.metadata.isTaggedForDeletion = false := untagged
  have adoptable : ∃ changed, (owner.adopt kind wanted).outcome = .ok changed :=
    Owner.outcome_adopt_ok_iff.mpr free
  obtain ⟨changed, adopted⟩ := adoptable
  obtain ⟨follows, own, alike⟩ := Reconcile.adopted_in_line adopted
  -- the first call puts the adopted object where none was
  have nothing : inventory.get? kind ⟨owner.namespaceName, name⟩ = none := by
    rw [Inventory.contains_eq_isSome] at absent
    exact Option.isNone_iff_eq_none.mp (Option.isSome_eq_false_iff.mp absent)
  have effect := Reconcile.effect_of_absent (Mutator.chain members).mutate asked adopted rfl called absent
  rw [← nothing] at effect
  obtain ⟨created, -, answer, -, -⟩ := run_reconcile_twice owner _ named effect probe
  -- the second call finds it there
  rw [Inventory.get?_put_same, Reconcile.verdict_some_of_untagged asked] at answer
  have reports : second.result = .ok .unchanged ↔
      ((Mutator.chain members).mutate (owner.adopt kind wanted).object wanted).outcome = .ok false := by
    rw [answer]
    exact Reconcile.effect_unchanged_iff follows own _
  have accepts : second.result = .ok .unchanged ↔ ∀ member ∈ members, member.Accepts desired.content := by
    rw [reports, ((Mutator.chain members).mutate_idleIff alike).outcome]
    exact Mutator.accepts_chain_iff
  refine ⟨created, accepts.mpr, fun unchanged => ⟨?_, ?_⟩⟩
  · exact fun member within => (accepts.mp unchanged member within).suits
  · have settled := Reconcile.verdictOnExisting_of_settled follows own (reports.mp unchanged)
    rw [← Reconcile.verdict_some_of_untagged asked, ← Inventory.get?_put_same inventory kind ⟨owner.namespaceName, name⟩] at settled
    exact (run_reconcile_settled owner _ named effect settled probe).2

/-- The rules for most deployments find one container with a limit in order, once it has been created. -/
theorem created_unchanged_of_deployment :
    let reference : OwnerReference :=
      { apiVersion := "v1", controller := some true, kind := "AppStack", name := "shop", uid := "1" }
    let owner : Owner := ⟨"prod", reference⟩
    let limits : StringMap := .ofList [("cpu", "500m")]
    let web : Container := { name := "web", resources := some { limits := some limits } }
    let desired : Kind.deployment.Object :=
      ⟨{ name := some "web" },
        { spec := some { selector := {}, template := { spec := some { containers := [web] } } } }⟩
    let call := reconcile owner (Mutator.chain [Mutator.genericDeployment]).mutate desired
    let first := call.run MemoryCluster.handler (.calm .empty ⟨[], true⟩)
    let second := call.run MemoryCluster.handler first.state
    first.result = .ok .created ∧ second.result = .ok .unchanged ∧ second.state = first.state := by
  intro reference owner limits web desired call first second
  obtain ⟨created, settled, quiet⟩ :=
    @created_then_unchanged .deployment owner [Mutator.genericDeployment] desired "web" rfl rfl
      (fun _ within => absurd within List.not_mem_nil) .empty rfl ⟨[], true⟩
  have accepted : ∀ member ∈ [Mutator.genericDeployment], member.Accepts desired.content := by
    intro member within
    obtain rfl := List.mem_singleton.mp within
    refine .chain fun rule listed => ?_
    obtain ⟨governed, generic, rfl⟩ := List.mem_map.mp listed
    refine .rule ?_
    cases governed with
    | containerResources =>
      refine ⟨rfl, fun container listed => ?_⟩
      obtain rfl := List.mem_singleton.mp listed
      decide +kernel
    | removeDuplicateEnvVars => exact absurd generic (by decide)
    | _ => trivial
  have unchanged := settled accepted
  exact ⟨created, unchanged, (quiet unchanged).2.2⟩

/-- Desired objects that are not in order for the second call: a secret without a text for a governed key, a
secret with bytes for which it has no text, tags of one name that disagree, a repeated environment variable,
a limit without a finite value, and a deployment without a container. -/
theorem created_then_changed_or_refused :
    let reference : OwnerReference :=
      { apiVersion := "v1", controller := some true, kind := "AppStack", name := "shop", uid := "1" }
    let owner : Owner := ⟨"prod", reference⟩
    let results {kind : Kind} (rule : kind.Rule) (content : kind.Content) :=
      let call := reconcile owner (Mutator.chain [.rule rule]).mutate ⟨{ name := some "web" }, content⟩
      let first := call.run MemoryCluster.handler (.calm .empty ⟨[], true⟩)
      let second := call.run MemoryCluster.handler first.state
      (first.result, second.result)
    let deployment (containers : List Container) : Deployment :=
      { spec := some { selector := {}, template := { spec := some { containers } } } }
    let tag (scheduled : Bool) : TagReference :=
      { name := "latest", importPolicy := some { scheduled := some scheduled } }
    let repeated : List EnvVar := [{ name := "MODE" }, { name := "MODE" }]
    let limits : StringMap := .ofList [("cpu", "1e400")]
    @results .secret (.key "token") {} = (.ok .created, .ok .updated) ∧
      @results .secret .stringData { data := some (.ofList [("token", [])]) } = (.ok .created, .ok .updated) ∧
      @results .imageStream .tags { spec := { tags := [tag true, tag false] } } =
        (.ok .created, .ok .updated) ∧
      @results .deployment .removeDuplicateEnvVars (deployment [{ name := "web", env := some repeated }]) =
        (.ok .created, .ok .updated) ∧
      @results .deployment .containerResources
          (deployment [{ name := "web", resources := some { limits := some limits } }]) =
        (.ok .created, .ok .updated) ∧
      @results .deployment .containerResources (deployment []) =
        (.ok .created, .error (.invariantViolation "Deployment/web"
          "desired spec.template.spec.containers has 0 entries, expected 1")) := by
  exact ⟨rfl, rfl, rfl, rfl, by decide +kernel, rfl⟩

end Reconciliation
