import Reconciliation.Proofs.Adoption
import Reconciliation.Proofs.MutatorMetadata
import Reconciliation.Proofs.Store
import Reconciliation.Reconcile

/-! # Reconciling as a decision

A call reads the object, decides, and carries out the decision. The decision is a pure function of what
was read (`Reconcile.verdict`), with one case for each combination of an absent or present object and a
tagged or wanted one. Everything that a call does to a store in memory follows from it: which requests
are sent, what the result is, and that only the place of the object can change.
-/

namespace Reconciliation

/-- What is left to do once it is known whether the object exists. -/
inductive Verdict
  /-- End with a result, without a write. -/
  | finish (result : Except Failure Outcome)
  /-- Write, and end with the outcome if the write succeeds. -/
  | write (change : Write) (outcome : Outcome)

namespace Verdict

/-- The program that carries out a verdict. -/
def program : Verdict → Program Cluster (Except Failure Outcome)
  | finish result => .done result
  | write change outcome => Reconcile.commit change outcome

/-- The requests that a verdict takes. -/
def requests : Verdict → List Cluster.Request
  | finish _ => []
  | write change _ => [.write change]

/-- The result of carrying out a verdict on a store, and the store afterwards. -/
def carryOut (store : MemoryStore) : Verdict → Except Failure Outcome × MemoryStore
  | finish result => (result, store)
  | write change outcome =>
      let (done, after) := store.write change
      (done.map fun _ => outcome, after)

/-- The result of carrying out a verdict where nothing is refused, and the objects afterwards. -/
def effect (inventory : Inventory) : Verdict → Except Failure Outcome × Inventory
  | finish result => (result, inventory)
  | write change outcome =>
      let (done, after) := MemoryStore.apply inventory change
      (done.map fun _ => outcome, after)

theorem carryOut_calm (inventory : Inventory) (verdict : Verdict) :
    verdict.carryOut (.calm inventory) =
      ((verdict.effect inventory).1, .calm (verdict.effect inventory).2) := by
  cases verdict with
  | finish result => rfl
  | write change outcome => simp only [carryOut, effect, MemoryStore.write_calm]

theorem effect_of_error {inventory : Inventory} {verdict : Verdict} {failure : Failure}
    (failed : (verdict.effect inventory).1 = .error failure) : (verdict.effect inventory).2 = inventory := by
  cases verdict with
  | finish result => rfl
  | write change outcome =>
    cases done : (MemoryStore.apply inventory change).1 with
    | error cause => exact MemoryStore.apply_of_error done
    | ok _ =>
      simp only [effect, done] at failed
      cases failed

/-- A verdict to write succeeds only if the write does. -/
theorem apply_of_effect_ok {inventory : Inventory} {change : Write} {done outcome : Outcome}
    (success : ((write change done).effect inventory).1 = .ok outcome) :
    outcome = done ∧ (MemoryStore.apply inventory change).1 = .ok () := by
  simp only [effect] at success
  cases answer : (MemoryStore.apply inventory change).1 with
  | error failure =>
    rw [answer] at success
    cases success
  | ok _ =>
    rw [answer] at success
    cases success
    exact ⟨rfl, rfl⟩

/-- Carrying out a verdict to write succeeds only if the write does. -/
theorem write_of_carryOut_ok {store : MemoryStore} {change : Write} {done outcome : Outcome}
    (success : ((write change done).carryOut store).1 = .ok outcome) :
    outcome = done ∧ (store.write change).1 = .ok () := by
  simp only [carryOut] at success
  cases answer : (store.write change).1 with
  | error failure =>
    rw [answer] at success
    cases success
  | ok _ =>
    rw [answer] at success
    cases success
    exact ⟨rfl, rfl⟩

theorem inventory_carryOut_of_error {store : MemoryStore} {verdict : Verdict} {failure : Failure}
    (failed : (verdict.carryOut store).1 = .error failure) :
    (verdict.carryOut store).2.inventory = store.inventory := by
  cases verdict with
  | finish result => rfl
  | write change outcome =>
    cases done : (store.write change).1 with
    | error cause => exact MemoryStore.inventory_write_of_error done
    | ok _ =>
      simp only [carryOut, done] at failed
      cases failed

theorem filed_carryOut {store : MemoryStore} (filed : store.inventory.Filed) (verdict : Verdict) :
    (verdict.carryOut store).2.inventory.Filed := by
  cases verdict with
  | finish result => exact filed
  | write change outcome => exact MemoryStore.filed_write filed change

end Verdict

/-- The requests that were sent, in order. -/
def Run.requests {interface : Interface} {σ α : Type} (run : Run interface σ α) : List interface.Request :=
  run.exchanges.map (·.request)

namespace Reconcile

variable {kind : Kind}

/-- An existing object whose metadata follow those of a wanted one. -/
def followed (wanted existing : kind.Object) : kind.Object :=
  { existing with metadata := (existing.metadata.follow wanted.metadata).value }

/-- The verdict on an existing object that is wanted. It is written back if merging its metadata,
adopting it or mutating it reported a change, unless one of the latter two refused. -/
def verdictOnExisting (owner : Owner) (mutate : Mutate kind.Object) (wanted existing : kind.Object) :
    Verdict :=
  let adopted := owner.adopt kind (followed wanted existing)
  let mutated := mutate adopted.object wanted
  match adopted.outcome, mutated.outcome with
  | .error failure, _ => .finish (.error failure)
  | .ok _, .error failure => .finish (.error failure)
  | .ok owned, .ok changed =>
      if (existing.metadata.follow wanted.metadata).changed || owned || changed then
        .write (.update ⟨kind, mutated.object⟩) .updated
      else .finish (.ok .unchanged)

/-- The verdict, by whether there is an object and whether the wanted one is tagged for deletion. -/
def verdict (owner : Owner) (mutate : Mutate kind.Object) (wanted : kind.Object) :
    Option kind.Object → Verdict
  | none =>
      if wanted.metadata.isTaggedForDeletion then .finish (.ok .unchanged)
      else
        match (owner.adopt kind wanted).outcome with
        | .error failure => .finish (.error failure)
        | .ok _ => .write (.create ⟨kind, (owner.adopt kind wanted).object⟩) .created
  | some existing =>
      if wanted.metadata.isTaggedForDeletion then
        .write (.delete ⟨kind, existing⟩ wanted.metadata.deletionPolicy?) .deleted
      else verdictOnExisting owner mutate wanted existing

variable {owner : Owner} {mutate : Mutate kind.Object}

section Cases

variable {wanted : kind.Object}

theorem verdict_none_of_tagged (tagged : wanted.metadata.isTaggedForDeletion = true) :
    verdict owner mutate wanted none = .finish (.ok .unchanged) := if_pos tagged

theorem verdict_some_of_tagged (tagged : wanted.metadata.isTaggedForDeletion = true) (existing : kind.Object) :
    verdict owner mutate wanted (some existing) =
      .write (.delete ⟨kind, existing⟩ wanted.metadata.deletionPolicy?) .deleted := if_pos tagged

theorem verdict_none_of_untagged (untagged : wanted.metadata.isTaggedForDeletion = false) :
    verdict owner mutate wanted none =
      match (owner.adopt kind wanted).outcome with
      | .error failure => .finish (.error failure)
      | .ok _ => .write (.create ⟨kind, (owner.adopt kind wanted).object⟩) .created :=
  if_neg (by simp [untagged])

theorem verdict_some_of_untagged (untagged : wanted.metadata.isTaggedForDeletion = false)
    (existing : kind.Object) :
    verdict owner mutate wanted (some existing) = verdictOnExisting owner mutate wanted existing :=
  if_neg (by simp [untagged])

end Cases

theorem update_eq_program (existing wanted : kind.Object) :
    update owner mutate existing wanted = (verdictOnExisting owner mutate wanted existing).program := by
  have steps : bringInLine owner mutate existing wanted =
      (Mutation.mk (owner.adopt kind (followed wanted existing)).object
        ((owner.adopt kind (followed wanted existing)).outcome.map
          ((existing.metadata.follow wanted.metadata).changed || ·))).andThen (mutate · wanted) := rfl
  rw [update, steps, verdictOnExisting]
  generalize (existing.metadata.follow wanted.metadata).changed = merged
  generalize owner.adopt kind (followed wanted existing) = adopted
  obtain ⟨object, outcome⟩ := adopted
  cases outcome with
  | error failure => rfl
  | ok owned =>
    rw [Mutation.andThen_of_ok rfl]
    generalize mutate object wanted = mutated
    obtain ⟨mutated, outcome⟩ := mutated
    cases outcome with
    | error failure => rfl
    | ok changed => cases merged <;> cases owned <;> cases changed <;> rfl

/-- What a call does after reading is to carry out its verdict. -/
theorem settle_eq_program (wanted : kind.Object) (existing : Option kind.Object) :
    settle owner mutate wanted existing = (verdict owner mutate wanted existing).program := by
  cases existing with
  | none =>
    simp only [settle, verdict, create]
    split
    · rfl
    · cases (owner.adopt kind wanted).outcome with
      | error failure => rfl
      | ok changed => rfl
  | some existing =>
    simp only [settle, verdict]
    split
    · rfl
    · exact update_eq_program existing wanted

end Reconcile

/-- Carrying out a verdict in memory. -/
theorem Verdict.run_program (verdict : Verdict) (cluster : MemoryCluster) :
    let run := verdict.program.run MemoryCluster.handler cluster
    run.result = (verdict.carryOut cluster.store).1 ∧
      run.state = { cluster with store := (verdict.carryOut cluster.store).2 } ∧
      run.requests = verdict.requests := by
  cases verdict with
  | finish result => exact ⟨rfl, rfl, rfl⟩
  | write change outcome => exact ⟨rfl, rfl, rfl⟩

section Runs

variable {kind : Kind} (owner : Owner) (mutate : Mutate kind.Object) {desired : kind.Object}
  {cluster : MemoryCluster} {name : String}

theorem run_reconcile_of_unnamed (unnamed : desired.metadata.name = none) :
    (reconcile owner mutate desired).run MemoryCluster.handler cluster =
      ⟨.error (.invalidObject kind.name "desired object has no name"), cluster, []⟩ := by
  simp only [reconcile, unnamed, Program.run_done]

/-- A call whose read is refused ends there. -/
theorem run_reconcile_of_refused (named : desired.metadata.name = some name) {refusal : ApiStatus}
    {later : List ApiStatus} (due : cluster.store.refusals .get = refusal :: later) :
    let run := (reconcile owner mutate desired).run MemoryCluster.handler cluster
    run.result = .error (.refused refusal) ∧
      run.state.store.inventory = cluster.store.inventory ∧
      run.requests = [.get kind owner.namespaceName name] := by
  have refused := MemoryStore.get_of_refused due kind ⟨owner.namespaceName, name⟩
  have kept := MemoryStore.inventory_get cluster.store kind ⟨owner.namespaceName, name⟩
  simp only [reconcile, named, Program.run, MemoryCluster.handler, Run.requests]
  rw [refused]
  exact ⟨rfl, kept, rfl⟩

/-- A call that may read carries out its verdict on what it read. -/
theorem run_reconcile_of_ready (named : desired.metadata.name = some name)
    (ready : cluster.store.refusals .get = []) :
    let run := (reconcile owner mutate desired).run MemoryCluster.handler cluster
    let verdict := Reconcile.verdict owner mutate (desired.inNamespace owner.namespaceName)
      (cluster.store.inventory.get? kind ⟨owner.namespaceName, name⟩)
    run.result = (verdict.carryOut cluster.store).1 ∧
      run.state = { cluster with store := (verdict.carryOut cluster.store).2 } ∧
      run.requests = .get kind owner.namespaceName name :: verdict.requests := by
  have read := MemoryStore.get_of_ready ready kind ⟨owner.namespaceName, name⟩
  simp only [reconcile, named, Program.run, MemoryCluster.handler, Run.requests]
  rw [read]
  simp only [Reconcile.settle_eq_program, List.map_cons]
  obtain ⟨result, state, requests⟩ := Verdict.run_program (Reconcile.verdict owner mutate
    (desired.inNamespace owner.namespaceName)
    (cluster.store.inventory.get? kind ⟨owner.namespaceName, name⟩)) cluster
  exact ⟨result, state, congrArg (_ :: ·) requests⟩

/-- A call to a cluster that refuses nothing has the effect of its verdict. -/
theorem run_reconcile_calm (named : desired.metadata.name = some name) (inventory : Inventory)
    (probe : ScriptedProbe) :
    let run := (reconcile owner mutate desired).run MemoryCluster.handler (.calm inventory probe)
    let verdict := Reconcile.verdict owner mutate (desired.inNamespace owner.namespaceName)
      (inventory.get? kind ⟨owner.namespaceName, name⟩)
    run.result = (verdict.effect inventory).1 ∧ run.state = .calm (verdict.effect inventory).2 probe ∧
      run.requests = .get kind owner.namespaceName name :: verdict.requests := by
  have ready : (MemoryCluster.calm inventory probe).store.refusals .get = [] := rfl
  obtain ⟨result, state, requests⟩ := run_reconcile_of_ready owner mutate named ready
  have carried := Verdict.carryOut_calm inventory (Reconcile.verdict owner mutate
    (desired.inNamespace owner.namespaceName) (inventory.get? kind ⟨owner.namespaceName, name⟩))
  refine ⟨result.trans (congrArg (·.1) carried), state.trans ?_, requests⟩
  exact congrArg (fun carried => (⟨carried.2, probe⟩ : MemoryCluster)) carried

/-- Of two calls in a row the second one has the effect of its verdict on what the first one has left. -/
theorem run_reconcile_twice (named : desired.metadata.name = some name) {inventory after : Inventory}
    {result : Except Failure Outcome}
    (effect : (Reconcile.verdict owner mutate (desired.inNamespace owner.namespaceName)
      (inventory.get? kind ⟨owner.namespaceName, name⟩)).effect inventory = (result, after))
    (probe : ScriptedProbe) :
    let first := (reconcile owner mutate desired).run MemoryCluster.handler (.calm inventory probe)
    let second := (reconcile owner mutate desired).run MemoryCluster.handler first.state
    let verdict := Reconcile.verdict owner mutate (desired.inNamespace owner.namespaceName)
      (after.get? kind ⟨owner.namespaceName, name⟩)
    first.result = result ∧ first.state = .calm after probe ∧
      second.result = (verdict.effect after).1 ∧ second.state = .calm (verdict.effect after).2 probe ∧
      second.requests = .get kind owner.namespaceName name :: verdict.requests := by
  intro first second verdict
  obtain ⟨answer, state, -⟩ := run_reconcile_calm owner mutate named inventory probe
  rw [effect] at answer state
  have again : second = (reconcile owner mutate desired).run MemoryCluster.handler (.calm after probe) :=
    congrArg _ state
  rw [again]
  exact ⟨answer, state, run_reconcile_calm owner mutate named after probe⟩

/-- If the first of two calls leaves nothing to do, the second one only reads. -/
theorem run_reconcile_settled (named : desired.metadata.name = some name) {inventory after : Inventory}
    {result : Except Failure Outcome}
    (effect : (Reconcile.verdict owner mutate (desired.inNamespace owner.namespaceName)
      (inventory.get? kind ⟨owner.namespaceName, name⟩)).effect inventory = (result, after))
    (settled : Reconcile.verdict owner mutate (desired.inNamespace owner.namespaceName)
      (after.get? kind ⟨owner.namespaceName, name⟩) = .finish (.ok .unchanged)) (probe : ScriptedProbe) :
    let first := (reconcile owner mutate desired).run MemoryCluster.handler (.calm inventory probe)
    let second := (reconcile owner mutate desired).run MemoryCluster.handler first.state
    second.result = .ok .unchanged ∧ second.requests = [.get kind owner.namespaceName name] ∧
      second.state = first.state := by
  intro first second
  obtain ⟨-, state, answer, left, requests⟩ := run_reconcile_twice owner mutate named effect probe
  rw [settled] at answer left requests
  exact ⟨answer, requests, left.trans state.symm⟩

/-- A call fails before it decides, or it carries out its verdict. -/
theorem run_reconcile_cases (desired : kind.Object) (cluster : MemoryCluster) :
    let run := (reconcile owner mutate desired).run MemoryCluster.handler cluster
    ((∃ failure, run.result = .error failure) ∧
        run.state.store.inventory = cluster.store.inventory) ∨
      ∃ name, desired.metadata.name = some name ∧
        let verdict := Reconcile.verdict owner mutate (desired.inNamespace owner.namespaceName)
          (cluster.store.inventory.get? kind ⟨owner.namespaceName, name⟩)
        run.result = (verdict.carryOut cluster.store).1 ∧
          run.state.store = (verdict.carryOut cluster.store).2 := by
  intro run
  cases called : desired.metadata.name with
  | none =>
    left
    have whole : run = ⟨.error (.invalidObject kind.name "desired object has no name"), cluster, []⟩ :=
      run_reconcile_of_unnamed owner mutate called
    exact ⟨⟨_, congrArg (·.result) whole⟩, congrArg (·.state.store.inventory) whole⟩
  | some name =>
    cases due : cluster.store.refusals .get with
    | cons refusal later =>
      left
      obtain ⟨result, inventory, -⟩ := run_reconcile_of_refused owner mutate called due
      exact ⟨⟨_, result⟩, inventory⟩
    | nil =>
      right
      obtain ⟨result, state, -⟩ := run_reconcile_of_ready owner mutate called due
      exact ⟨name, rfl, result, congrArg (·.store) state⟩

end Runs

end Reconciliation
