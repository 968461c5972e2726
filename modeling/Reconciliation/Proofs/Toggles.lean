import Reconciliation.Proofs.DeletionPrecedence
import Reconciliation.Proofs.Lookups
import Reconciliation.Proofs.MetadataGrowth

/-! # Objects that can be switched off

Calls for an object that can be switched off come with a toggle. As long as the kind is not found to be
missing, a call that succeeds leaves the object there exactly if it is on. A call that is off discards the
object, without a use for its mutator or for the identity of the owner, and one that fails changes nothing.
So along any run of such calls, whatever the store refuses on the way, the last success decides.
-/

namespace Reconciliation

/-- A call for an object that is tagged for deletion and succeeds has deleted it, or found nothing to do. -/
theorem outcome_run_reconcile_of_tagged {kind : Kind} {owner : Owner} {mutate : Mutate kind.Object}
    {desired : kind.Object} {cluster : MemoryCluster} (tagged : desired.metadata.isTaggedForDeletion = true)
    {name : String} (named : desired.metadata.name = some name) {outcome : Outcome}
    (success : ((reconcile owner mutate desired).run MemoryCluster.handler cluster).result = .ok outcome) :
    outcome = if cluster.store.inventory.contains kind ⟨owner.namespaceName, name⟩ then .deleted else .unchanged := by
  have within : (desired.inNamespace owner.namespaceName).metadata.isTaggedForDeletion = true := tagged
  rcases run_reconcile_cases owner mutate desired cluster with ⟨⟨failure, failed⟩, -⟩ | ⟨called, alike, result, -⟩
  · cases failed.symm.trans success
  obtain rfl : name = called := Option.some.inj (named.symm.trans alike)
  rw [result] at success
  rw [Inventory.contains_eq_isSome]
  cases stored : cluster.store.inventory.get? kind ⟨owner.namespaceName, name⟩ with
  | none =>
    rw [stored, Reconcile.verdict_none_of_tagged within] at success
    cases success
    rfl
  | some existing =>
    rw [stored, Reconcile.verdict_some_of_tagged within] at success
    exact (Verdict.write_of_carryOut_ok success).1

/-- A call for an object of a kind that can be switched off, with a mutator of the library, and the circumstances
it meets with: what its pass knows about kinds, what the store refuses, and what a question about a kind is
answered. -/
structure Toggle (kind : Kind) where
  mutator : Mutator kind
  desired : kind.Object
  enabled : Bool
  known : Availability
  refusals : Verb → List ApiStatus
  probe : ScriptedProbe

namespace Toggle

variable {kind : Kind}

/-- The call on behalf of an owner, with some mutation in the place of its own. -/
def program (toggle : Toggle kind) (owner : Owner) (mutate : Mutate kind.Object) :
    Program Cluster (Except Failure Outcome × Availability) :=
  reconcileManaged owner mutate toggle.desired toggle.enabled toggle.known

/-- The cluster that the call meets with. -/
def cluster (toggle : Toggle kind) (inventory : Inventory) : MemoryCluster :=
  ⟨⟨inventory, toggle.refusals⟩, toggle.probe⟩

/-- The run of the call on the objects there are. -/
def run (toggle : Toggle kind) (owner : Owner) (inventory : Inventory) :
    Run Cluster MemoryCluster (Except Failure Outcome × Availability) :=
  (toggle.program owner toggle.mutator.mutate).run MemoryCluster.handler (toggle.cluster inventory)

/-- What the call gets to know about its kind. One that every cluster serves is not in question. -/
def answer (toggle : Toggle kind) : Except Failure Bool :=
  if kind.isOptional then
    match toggle.known.get? kind.apiVersion kind.name with
    | some served => .ok served
    | none => (toggle.probe.probe kind.apiVersion kind.name).1
  else .ok true

/-- The desired object, tagged for deletion if it is switched off. -/
def wanted (toggle : Toggle kind) : kind.Object := Object.ifEnabled toggle.desired toggle.enabled

variable {toggle : Toggle kind} {owner : Owner} {inventory : Inventory}

theorem wanted_of_enabled (enabled : toggle.enabled = true) : toggle.wanted = toggle.desired := by
  simp [wanted, Object.ifEnabled, enabled]

theorem isTagged_wanted (toggled : kind.isToggled = true) (disabled : toggle.enabled = false) :
    toggle.wanted.metadata.isTaggedForDeletion = true := by
  simp only [wanted, Object.ifEnabled, toggled, disabled, Bool.not_false, Bool.and_self, if_true]
  exact toggle.desired.metadata.isTaggedForDeletion_tagForDeletion none

theorem name_wanted (toggle : Toggle kind) : toggle.wanted.metadata.name = toggle.desired.metadata.name := by
  rw [wanted, Object.ifEnabled]
  split <;> rfl

/-- Unless the kind is found to be missing, a call fails without an effect, or is one for the wanted object. -/
theorem run_cases (toggle : Toggle kind) (owner : Owner) (inventory : Inventory)
    (available : toggle.answer ≠ .ok false) :
    let run := toggle.run owner inventory
    ((∃ failure, run.result.1 = .error failure) ∧ run.state.store.inventory = inventory) ∨
      ∃ cluster : MemoryCluster, cluster.store.inventory = inventory ∧
        let call := (reconcile owner toggle.mutator.mutate toggle.wanted).run MemoryCluster.handler cluster
        run.result.1 = call.result ∧ run.state = call.state := by
  intro run
  cases optional : kind.isOptional with
  | false =>
    right
    refine ⟨toggle.cluster inventory, rfl, ?_⟩
    simp only [run, Toggle.run, program, reconcileManaged, optional, Bool.false_eq_true, if_false, Program.run_map]
    exact ⟨rfl, rfl⟩
  | true =>
    simp only [answer, optional, if_true] at available
    simp only [run, Toggle.run, program, reconcileManaged, optional, if_true, reconcileIfServed, Program.run_bind]
    cases found : toggle.known.get? kind.apiVersion kind.name with
    | some served =>
      simp only [found] at available
      obtain rfl : served = true := by simpa using available
      rw [Availability.run_find_of_known _ _ found]
      simp only [Program.run_map]
      exact .inr ⟨toggle.cluster inventory, rfl, rfl, rfl⟩
    | none =>
      simp only [found] at available
      rw [Availability.run_find_of_unknown _ _ found]
      -- the question leaves the store as it is, so the call still meets with the same objects
      have asked : MemoryCluster.handler (.probe kind.apiVersion kind.name) (toggle.cluster inventory) =
          ((toggle.probe.probe kind.apiVersion kind.name).1,
            { toggle.cluster inventory with probe := (toggle.probe.probe kind.apiVersion kind.name).2 }) := rfl
      rw [asked]
      cases answered : (toggle.probe.probe kind.apiVersion kind.name).1 with
      | error failure => exact .inl ⟨⟨failure, rfl⟩, rfl⟩
      | ok served =>
        obtain rfl : served = true := by simpa [answered] using available
        simp only [Program.run_map]
        exact .inr ⟨_, rfl, rfl, rfl⟩

/-- A call keeps objects filed. -/
theorem filed_run (available : toggle.answer ≠ .ok false) (filed : inventory.Filed) :
    (toggle.run owner inventory).state.store.inventory.Filed := by
  obtain ⟨-, same⟩ | ⟨cluster, rfl, -, state⟩ := toggle.run_cases owner inventory available
  · rw [same]
    exact filed
  · rw [state]
    exact filed_run_reconcile filed

/-- A call that fails changes nothing. -/
theorem inventory_run_of_error (available : toggle.answer ≠ .ok false) {failure : Failure}
    (failed : (toggle.run owner inventory).result.1 = .error failure) :
    (toggle.run owner inventory).state.store.inventory = inventory := by
  obtain ⟨-, same⟩ | ⟨cluster, rfl, result, state⟩ := toggle.run_cases owner inventory available
  · exact same
  · rw [state]
    exact inventory_run_reconcile_of_error (result.symm.trans failed)

/-- After a call that is on and succeeds, the object is there. -/
theorem contains_run_of_enabled {name : String} (named : toggle.desired.metadata.name = some name)
    (untagged : toggle.desired.metadata.isTaggedForDeletion = false) (available : toggle.answer ≠ .ok false)
    (enabled : toggle.enabled = true) {outcome : Outcome}
    (success : (toggle.run owner inventory).result.1 = .ok outcome) :
    (toggle.run owner inventory).state.store.inventory.contains kind ⟨owner.namespaceName, name⟩ = true := by
  obtain ⟨⟨failure, failed⟩, -⟩ | ⟨cluster, -, result, state⟩ := toggle.run_cases owner inventory available
  · cases failed.symm.trans success
  rw [wanted_of_enabled enabled] at result state
  let errand : Errand := ⟨owner, toggle.mutator, toggle.desired⟩
  obtain ⟨⟨failure, failed⟩, -⟩ | ⟨called, stored, alike, found, -⟩ := errand.run_cases untagged cluster
  · cases (result.symm.trans success).symm.trans failed
  · obtain rfl : name = called := Option.some.inj (named.symm.trans alike)
    rw [state, Inventory.contains_eq_isSome]
    exact congrArg Option.isSome found

/-- A call that is off and succeeds has deleted the object or found it absent. Afterwards it is not there. -/
theorem run_of_disabled (toggled : kind.isToggled = true) {name : String}
    (named : toggle.desired.metadata.name = some name) (filed : inventory.Filed)
    (available : toggle.answer ≠ .ok false) (disabled : toggle.enabled = false) {outcome : Outcome}
    (success : (toggle.run owner inventory).result.1 = .ok outcome) :
    outcome = (if inventory.contains kind ⟨owner.namespaceName, name⟩ then .deleted else .unchanged) ∧
      (toggle.run owner inventory).state.store.inventory.contains kind ⟨owner.namespaceName, name⟩ = false := by
  have tagged := isTagged_wanted toggled disabled
  obtain ⟨⟨failure, failed⟩, -⟩ | ⟨cluster, rfl, result, state⟩ := toggle.run_cases owner inventory available
  · cases failed.symm.trans success
  have ended := result.symm.trans success
  have wanted := toggle.name_wanted.trans named
  refine ⟨outcome_run_reconcile_of_tagged tagged wanted ended, ?_⟩
  obtain ⟨called, alike, absent⟩ := get?_run_reconcile_of_tagged tagged filed ended
  obtain rfl : name = called := Option.some.inj (wanted.symm.trans alike)
  rw [state, Inventory.contains_eq_isSome, absent]
  rfl

/-- Who makes a call that is off, and what it would change, makes no difference. -/
theorem program_of_disabled (toggled : kind.isToggled = true) (disabled : toggle.enabled = false) {other : Owner}
    (sameNamespace : other.namespaceName = owner.namespaceName) (mutate change : Mutate kind.Object) :
    toggle.program other change = toggle.program owner mutate := by
  have tagged : (Object.ifEnabled toggle.desired toggle.enabled).metadata.isTaggedForDeletion = true :=
    isTagged_wanted toggled disabled
  have same : reconcile other change (Object.ifEnabled toggle.desired toggle.enabled) =
      reconcile owner mutate (Object.ifEnabled toggle.desired toggle.enabled) := by
    rw [Reconcile.reconcile_of_tagged other change tagged, Reconcile.reconcile_of_tagged owner mutate tagged,
      sameNamespace]
  simp only [program, reconcileManaged, reconcileIfServed, same]

end Toggle

/-- The objects after some calls of an owner, one after the other. -/
def Owner.toggled {kind : Kind} (owner : Owner) (inventory : Inventory) (toggles : List (Toggle kind)) : Inventory :=
  toggles.foldl (fun reached toggle => (toggle.run owner reached).state.store.inventory) inventory

/-- Any number of calls keep objects filed. -/
theorem Owner.filed_toggled {kind : Kind} (owner : Owner) {inventory : Inventory} (filed : inventory.Filed)
    (toggles : List (Toggle kind)) (available : ∀ toggle ∈ toggles, toggle.answer ≠ .ok false) :
    (owner.toggled inventory toggles).Filed := by
  induction toggles generalizing inventory with
  | nil => exact filed
  | cons toggle rest ih =>
    obtain ⟨first, others⟩ := List.forall_mem_cons.mp available
    exact ih (Toggle.filed_run first filed) others

/-- In a run of calls for one object that can be switched off, whose kind none of them finds to be missing, the
object is there after a call that succeeds exactly if this call is on. A call that fails leaves all objects
as they were. A call that is off deletes the object or finds nothing to do, and would be the same with any
other mutator and for any other owner in the namespace. -/
theorem toggled_object_exists_iff_enabled {kind : Kind} (toggled : kind.isToggled = true) (owner : Owner)
    (name : String) (inventory : Inventory) (filed : inventory.Filed) (toggles : List (Toggle kind))
    (named : ∀ toggle ∈ toggles, toggle.desired.metadata.name = some name)
    (untagged : ∀ toggle ∈ toggles, toggle.desired.metadata.isTaggedForDeletion = false)
    (available : ∀ toggle ∈ toggles, toggle.answer ≠ .ok false) :
    ∀ earlier toggle later, toggles = earlier ++ toggle :: later →
      let place : Place := ⟨owner.namespaceName, name⟩
      let before := owner.toggled inventory earlier
      let run := toggle.run owner before
      let after := owner.toggled inventory (earlier ++ [toggle])
      (∀ outcome, run.result.1 = .ok outcome → after.contains kind place = toggle.enabled) ∧
        (∀ failure, run.result.1 = .error failure → after = before) ∧
        (toggle.enabled = false →
          (∀ outcome, run.result.1 = .ok outcome →
            outcome = if before.contains kind place then .deleted else .unchanged) ∧
          ∀ (other : Owner) (mutate : Mutate kind.Object), other.namespaceName = owner.namespaceName →
            toggle.program other mutate = toggle.program owner toggle.mutator.mutate) := by
  rintro earlier toggle later rfl place before run after
  have within : toggle ∈ earlier ++ toggle :: later := by simp
  have reached : after = run.state.store.inventory := List.foldl_append ..
  have called := named toggle within
  have served := available toggle within
  have ordered : before.Filed :=
    owner.filed_toggled filed earlier fun other among => available other (by simp [among])
  rw [reached]
  refine ⟨fun outcome success => ?_, fun failure failed => Toggle.inventory_run_of_error served failed,
    fun disabled => ⟨fun outcome success => ?_, fun other mutate sameNamespace => ?_⟩⟩
  · cases enabled : toggle.enabled with
    | true => exact Toggle.contains_run_of_enabled called (untagged toggle within) served enabled success
    | false => exact (Toggle.run_of_disabled toggled called ordered served enabled success).2
  · exact (Toggle.run_of_disabled toggled called ordered served disabled success).1
  · exact Toggle.program_of_disabled toggled disabled sameNamespace toggle.mutator.mutate mutate

/-- A monitor is switched on, and then off by a call that the store refuses and by another one. -/
theorem toggled_object_exists_iff_enabled_of_monitor :
    let owner : Owner :=
      ⟨"prod", { apiVersion := "v1", controller := some true, kind := "AppStack", name := "shop", uid := "1" }⟩
    let desired : Kind.serviceMonitor.Object := ⟨{ name := some "shop" }, ⟨⟨⟨none⟩, []⟩⟩⟩
    let conflict := ApiStatus.ofReason 409 "Conflict"
    let toggle (enabled : Bool) (refused : List ApiStatus) : Toggle .serviceMonitor :=
      ⟨.rule .spec, desired, enabled, .unknown, fun verb => if verb = .delete then refused else [], ⟨[], true⟩⟩
    let first := toggle true []
    let second := toggle false [conflict]
    let third := toggle false []
    let place : Place := ⟨owner.namespaceName, "shop"⟩
    (owner.toggled .empty [first]).contains .serviceMonitor place = true ∧
      (second.run owner (owner.toggled .empty [first])).result.1 = .error (.refused conflict) ∧
      owner.toggled .empty [first, second] = owner.toggled .empty [first] ∧
      (owner.toggled .empty [first, second, third]).contains .serviceMonitor place = false := by
  intro owner desired conflict toggle first second third place
  have all := @toggled_object_exists_iff_enabled .serviceMonitor rfl owner "shop" .empty
    Inventory.filed_empty [first, second, third] (by decide +kernel) (by decide +kernel) (by decide +kernel)
  obtain ⟨there, -⟩ := all [] first [second, third] rfl
  obtain ⟨-, unharmed, -⟩ := all [first] second [third] rfl
  obtain ⟨gone, -⟩ := all [first, second] third [] rfl
  have created : (first.run owner .empty).result.1 = .ok .created := by decide +kernel
  have refused : (second.run owner (owner.toggled .empty [first])).result.1 = .error (.refused conflict) := by decide +kernel
  have deleted : (third.run owner (owner.toggled .empty [first, second])).result.1 = .ok .deleted := by decide +kernel
  exact ⟨there .created created, refused, unharmed _ refused, gone .deleted deleted⟩

end Reconciliation
