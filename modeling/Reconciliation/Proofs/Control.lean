import Reconciliation.Proofs.FourWays

/-! # Control over whole runs

Owners take turns to call, each for its own objects and with mutators of the library. A call that
succeeds leaves the object under the control of its owner. Control is kept by every later call except
one that deletes the object, and until then the calls of all other owners for the object fail, so that
control never passes from one owner to another without a deletion in between.
-/

namespace Reconciliation

namespace Reconcile

variable {kind : Kind} {owner : Owner} {mutator : Mutator kind} {wanted : kind.Object}
  {existing : Option kind.Object}

/-- What is written of an object that is wanted is under the control of the owner, also after the mutator
has had its turn. -/
theorem controls_of_write (controller : owner.IsController)
    (untagged : wanted.metadata.isTaggedForDeletion = false) {change : Write} {outcome : Outcome}
    (decided : verdict owner mutator.mutate wanted existing = .write change outcome) :
    change.verb ≠ .delete ∧ owner.Controls change.resource.object.metadata := by
  cases existing with
  | none =>
    rw [verdict_none_of_untagged untagged] at decided
    split at decided
    · cases decided
    · next adopted =>
      cases decided
      exact ⟨Verb.noConfusion, Owner.controls_of_adopt controller adopted⟩
  | some object =>
    rw [verdict_some_of_untagged untagged, verdictOnExisting] at decided
    split at decided
    · cases decided
    · cases decided
    · next adopted _ =>
      split at decided
      · cases decided
        have own := Owner.controls_of_adopt controller adopted
        have kept := mutator.annotatedFrom (owner.adopt kind (followed wanted object)).object wanted
        exact ⟨Verb.noConfusion, own.of_references kept.ownerReferences⟩
      · cases decided

/-- A call for a wanted object that succeeds without a write found the owner in control. -/
theorem controls_of_finish (controller : owner.IsController)
    (untagged : wanted.metadata.isTaggedForDeletion = false) {outcome : Outcome}
    (decided : verdict owner mutator.mutate wanted existing = .finish (.ok outcome)) :
    ∃ object, existing = some object ∧ owner.Controls object.metadata := by
  cases existing with
  | none =>
    rw [verdict_none_of_untagged untagged] at decided
    split at decided <;> cases decided
  | some object =>
    refine ⟨object, rfl, ?_⟩
    rw [verdict_some_of_untagged untagged, verdictOnExisting] at decided
    split at decided
    · cases decided
    · cases decided
    · next owned changed adopted mutated =>
      split at decided
      · cases decided
      · next unchanged =>
        simp only [Bool.or_eq_true, not_or, Bool.not_eq_true] at unchanged
        obtain ⟨⟨-, rfl⟩, -⟩ := unchanged
        exact (Owner.controls_of_adopt_unchanged controller adopted).of_references rfl

/-- What another owner controls is left alone, with an error that names the one in control. -/
theorem verdict_of_controls {other : Owner} {object : kind.Object} (mutate : Mutate kind.Object)
    (controls : owner.Controls object.metadata) (different : other.uid ≠ owner.uid)
    (untagged : wanted.metadata.isTaggedForDeletion = false) {namespaceName name : String}
    (within : wanted.metadata.namespaceName = some namespaceName) (named : wanted.metadata.name = some name) :
    verdict other mutate wanted (some object) =
      .finish (.error (.ownershipConflict kind.name namespaceName name owner.describe)) := by
  have kept : owner.Controls (followed wanted object).metadata := controls.of_references rfl
  have within' : (followed wanted object).metadata.namespaceOrEmpty = namespaceName :=
    congrArg (·.getD "") within
  have named' : (followed wanted object).nameAny = name :=
    congrArg Place.name (place_followed within named object)
  rw [verdict_some_of_untagged untagged, verdictOnExisting, Owner.adopt_of_controls_of_ne kept different,
    within', named']
  rfl

end Reconcile

/-- A call of an owner that is a controller, for a named object, with a mutator of the library. -/
structure Call where
  {kind : Kind}
  owner : Owner
  controller : owner.IsController
  mutator : Mutator kind
  desired : kind.Object
  name : String
  named : desired.metadata.name = some name

/-- There is an object at the place, and the owner controls it. -/
def Owner.Holds (owner : Owner) (kind : Kind) (place : Place) (inventory : Inventory) : Prop :=
  ∃ object, inventory.get? kind place = some object ∧ owner.Controls object.metadata

namespace Call

/-- The place that the call is for. -/
def place (call : Call) : Place := ⟨call.owner.namespaceName, call.name⟩

/-- The desired object, in the namespace of the owner. -/
def wanted (call : Call) : call.kind.Object := call.desired.inNamespace call.owner.namespaceName

/-- Whether the call asks for a deletion. -/
def isTagged (call : Call) : Bool := call.wanted.metadata.isTaggedForDeletion

/-- The run of the call on a cluster. -/
def run (call : Call) (cluster : MemoryCluster) : Run Cluster MemoryCluster (Except Failure Outcome) :=
  (reconcile call.owner call.mutator.mutate call.desired).run MemoryCluster.handler cluster

/-- What the call decides on the objects there are. -/
def verdict (call : Call) (inventory : Inventory) : Verdict :=
  Reconcile.verdict call.owner call.mutator.mutate call.wanted (inventory.get? call.kind call.place)

/-- The result of the call where nothing is refused, and the objects afterwards. -/
def effect (call : Call) (inventory : Inventory) : Except Failure Outcome × Inventory :=
  (call.verdict inventory).effect inventory

variable {call : Call} {inventory : Inventory} {kind : Kind} {place : Place} {owner : Owner}

theorem wanted_namespaceName (call : Call) :
    call.wanted.metadata.namespaceName = some call.owner.namespaceName := rfl

theorem wanted_name (call : Call) : call.wanted.metadata.name = some call.name := call.named

theorem run_calm (call : Call) (inventory : Inventory) (probe : ScriptedProbe) :
    (call.run (.calm inventory probe)).result = (call.effect inventory).1 ∧
      (call.run (.calm inventory probe)).state = .calm (call.effect inventory).2 probe := by
  obtain ⟨result, state, -⟩ :=
    run_reconcile_calm call.owner call.mutator.mutate call.named inventory probe
  exact ⟨result, state⟩

theorem effect_of_finish {result : Except Failure Outcome}
    (decided : call.verdict inventory = .finish result) :
    call.effect inventory = (result, inventory) := by
  rw [effect, decided]
  rfl

theorem effect_of_write {change : Write} {outcome : Outcome}
    (decided : call.verdict inventory = .write change outcome) :
    call.effect inventory = ((MemoryStore.apply inventory change).1.map fun _ => outcome,
      (MemoryStore.apply inventory change).2) := by
  rw [effect, decided]
  rfl

/-- What a call writes for a wanted object is for its place. -/
theorem place_of_write (untagged : call.isTagged = false) {change : Write} {outcome : Outcome}
    (decided : call.verdict inventory = .write change outcome) :
    (change.resource.kind, change.resource.place) = (call.kind, call.place) :=
  Reconcile.place_of_untagged call.mutator.keepsPlace call.wanted_namespaceName call.wanted_name untagged
    decided

/-- An owner whose call succeeds holds the object afterwards. -/
theorem holds_of_ok (untagged : call.isTagged = false) {outcome : Outcome}
    (success : (call.effect inventory).1 = .ok outcome) :
    call.owner.Holds call.kind call.place (call.effect inventory).2 := by
  cases decided : call.verdict inventory with
  | finish result =>
    have ended := effect_of_finish decided
    rw [ended] at success ⊢
    obtain rfl : result = .ok outcome := success
    exact Reconcile.controls_of_finish call.controller untagged decided
  | write change done =>
    obtain ⟨kept, controls⟩ := Reconcile.controls_of_write call.controller untagged decided
    have here := place_of_write untagged decided
    rw [effect, decided] at success ⊢
    have applied := (Verdict.apply_of_effect_ok success).2
    have held : call.owner.Holds change.resource.kind change.resource.place
        (MemoryStore.apply inventory change).2 :=
      ⟨_, MemoryStore.get?_apply_of_ok kept applied, controls⟩
    obtain ⟨sameKind, samePlace⟩ := Prod.mk.inj here
    rw [sameKind, samePlace] at held
    exact held

/-- What one owner holds, the call of another one fails for. -/
theorem effect_of_holds (held : owner.Holds call.kind call.place inventory)
    (different : call.owner.uid ≠ owner.uid) (untagged : call.isTagged = false) :
    call.effect inventory =
      (.error (.ownershipConflict call.kind.name call.owner.namespaceName call.name owner.describe),
        inventory) := by
  obtain ⟨object, found, controls⟩ := held
  apply effect_of_finish
  rw [verdict, found]
  exact Reconcile.verdict_of_controls _ controls different untagged call.wanted_namespaceName call.wanted_name

theorem run_of_holds (held : owner.Holds call.kind call.place inventory)
    (different : call.owner.uid ≠ owner.uid) (untagged : call.isTagged = false) (probe : ScriptedProbe) :
    (call.run (.calm inventory probe)).result =
        .error (.ownershipConflict call.kind.name call.place.namespaceName call.place.name owner.describe) ∧
      (call.run (.calm inventory probe)).state = .calm inventory probe := by
  obtain ⟨result, state⟩ := call.run_calm inventory probe
  rw [effect_of_holds held different untagged] at result state
  exact ⟨result, state⟩

/-- A call for a deletion empties a place or leaves it alone. -/
theorem get?_effect_of_tagged (tagged : call.isTagged = true) (kind : Kind) (place : Place) :
    (call.effect inventory).2.get? kind place = none ∨
      (call.effect inventory).2.get? kind place = inventory.get? kind place := by
  have asked : call.wanted.metadata.isTaggedForDeletion = true := tagged
  cases found : inventory.get? call.kind call.place with
  | none =>
    right
    have decided : call.verdict inventory = .finish (.ok .unchanged) := by
      rw [verdict, found, Reconcile.verdict_none_of_tagged asked]
    rw [effect_of_finish decided]
  | some object =>
    have decided : call.verdict inventory =
        .write (.delete ⟨call.kind, object⟩ call.wanted.metadata.deletionPolicy?) .deleted := by
      rw [verdict, found, Reconcile.verdict_some_of_tagged asked]
    rw [effect_of_write decided]
    by_cases here : (call.kind, object.metadata.place) = (kind, place)
    · left
      cases here
      exact Inventory.get?_remove_same _ _ _
    · right
      exact Inventory.get?_remove_of_ne _ here

/-- A call for a wanted object touches only its place. -/
theorem get?_effect_of_ne (untagged : call.isTagged = false)
    (elsewhere : (call.kind, call.place) ≠ (kind, place)) :
    (call.effect inventory).2.get? kind place = inventory.get? kind place := by
  cases decided : call.verdict inventory with
  | finish result => rw [effect_of_finish decided]
  | write change done =>
    have here := place_of_write untagged decided
    rw [effect_of_write decided]
    apply MemoryStore.get?_apply_of_ne
    rw [here]
    exact elsewhere

/-- What an owner holds it still holds after any call, its own or not, unless the place has been emptied
on request. -/
theorem holds_of_holds (held : owner.Holds kind place inventory)
    (apart : call.owner.uid = owner.uid → call.owner = owner)
    (spared : call.isTagged = true → (call.effect inventory).2.get? kind place ≠ none) :
    owner.Holds kind place (call.effect inventory).2 := by
  have unless_touched (same : (call.effect inventory).2.get? kind place = inventory.get? kind place) :
      owner.Holds kind place (call.effect inventory).2 := by
    rw [Owner.Holds, same]
    exact held
  cases tagged : call.isTagged with
  | true => exact unless_touched ((get?_effect_of_tagged tagged kind place).resolve_left (spared tagged))
  | false =>
    by_cases here : (call.kind, call.place) = (kind, place)
    · cases here
      by_cases own : call.owner.uid = owner.uid
      · cases result : (call.effect inventory).1 with
        | error failure =>
          exact unless_touched (by rw [effect, Verdict.effect_of_error result])
        | ok outcome => exact apart own ▸ holds_of_ok tagged result
      · exact unless_touched (by rw [effect_of_holds held own tagged])
    · exact unless_touched (get?_effect_of_ne tagged here)

end Call

namespace MemoryCluster

/-- The cluster after some calls. -/
def after (cluster : MemoryCluster) (calls : List Call) : MemoryCluster :=
  calls.foldl (fun reached call => (call.run reached).state) cluster

/-- None of the calls, made one after the other, is a deletion that leaves the place empty. -/
def Spared (kind : Kind) (place : Place) : MemoryCluster → List Call → Prop
  | _, [] => True
  | cluster, call :: rest =>
      (call.isTagged = true → (call.run cluster).state.store.inventory.get? kind place ≠ none) ∧
        (call.run cluster).state.Spared kind place rest

@[simp] theorem after_cons (cluster : MemoryCluster) (call : Call) (rest : List Call) :
    cluster.after (call :: rest) = (call.run cluster).state.after rest := rfl

@[simp] theorem after_append (cluster : MemoryCluster) (earlier later : List Call) :
    cluster.after (earlier ++ later) = (cluster.after earlier).after later := List.foldl_append ..

/-- A cluster that refuses nothing never will. -/
theorem after_calm (inventory : Inventory) (probe : ScriptedProbe) (calls : List Call) :
    ∃ reached, (calm inventory probe).after calls = calm reached probe := by
  induction calls generalizing inventory with
  | nil => exact ⟨inventory, rfl⟩
  | cons call rest ih =>
    rw [after_cons, (call.run_calm inventory probe).2]
    exact ih (call.effect inventory).2

/-- What an owner holds it holds as long as the place is spared, whatever the calls are. -/
theorem holds_after {owner : Owner} {kind : Kind} {place : Place} {inventory : Inventory}
    (probe : ScriptedProbe) (held : owner.Holds kind place inventory) (calls : List Call)
    (apart : ∀ call ∈ calls, call.owner.uid = owner.uid → call.owner = owner)
    (spared : (calm inventory probe).Spared kind place calls) :
    owner.Holds kind place ((calm inventory probe).after calls).store.inventory := by
  induction calls generalizing inventory with
  | nil => exact held
  | cons call rest ih =>
    obtain ⟨this, others⟩ := spared
    rw [(call.run_calm inventory probe).2] at this others
    rw [after_cons, (call.run_calm inventory probe).2]
    have still := call.holds_of_holds held (apart call List.mem_cons_self) this
    exact ih still (fun other within => apart other (List.mem_cons_of_mem _ within)) others

end MemoryCluster

/-- From a call for a wanted object that succeeds until the object is deleted on request, the object is
there, its one controller reference and its one reference to the owner of the call are the owner's, and
the calls of all other owners for it fail without an effect. -/
theorem control_until_deletion (inventory : Inventory) (probe : ScriptedProbe) {earlier later : List Call}
    {call : Call}
    (apart : ∀ a ∈ earlier ++ call :: later, ∀ b ∈ earlier ++ call :: later,
      a.owner.uid = b.owner.uid → a.owner = b.owner)
    (untagged : call.isTagged = false) {outcome : Outcome}
    (success : (call.run ((MemoryCluster.calm inventory probe).after earlier)).result = .ok outcome) :
    ∀ between rest, later = between ++ rest →
      ((MemoryCluster.calm inventory probe).after (earlier ++ [call])).Spared call.kind call.place between →
      let reached := (MemoryCluster.calm inventory probe).after (earlier ++ call :: between)
      call.owner.Holds call.kind call.place reached.store.inventory ∧
      ∀ other, rest.head? = some other → other.owner ≠ call.owner → other.isTagged = false →
        other.kind = call.kind → other.place = call.place →
        (other.run reached).result =
          .error (.ownershipConflict call.kind.name call.place.namespaceName call.place.name
            call.owner.describe) ∧
        (other.run reached).state = reached := by
  intro between rest split spared reached
  obtain ⟨before, calm⟩ := MemoryCluster.after_calm inventory probe earlier
  have held : call.owner.Holds call.kind call.place (call.effect before).2 := by
    rw [calm, (call.run_calm before probe).1] at success
    exact call.holds_of_ok untagged success
  have first : (MemoryCluster.calm inventory probe).after (earlier ++ [call]) =
      .calm (call.effect before).2 probe := by
    rw [MemoryCluster.after_append, calm]
    exact (call.run_calm before probe).2
  have whole : reached = (MemoryCluster.calm (call.effect before).2 probe).after between := by
    rw [← first, ← MemoryCluster.after_append, List.append_assoc]
    rfl
  have listed (other : Call) (member : other ∈ later) : other ∈ earlier ++ call :: later :=
    List.mem_append_right _ (List.mem_cons_of_mem _ member)
  have self : call ∈ earlier ++ call :: later := List.mem_append_right _ List.mem_cons_self
  rw [first] at spared
  have still : call.owner.Holds call.kind call.place reached.store.inventory := by
    rw [whole]
    refine MemoryCluster.holds_after probe held between ?_ spared
    intro other member
    exact apart other (listed other (split ▸ List.mem_append_left rest member)) call self
  refine ⟨still, ?_⟩
  intro other next different wanted sameKind samePlace
  have member : other ∈ later := split ▸ List.mem_append_right between (List.mem_of_head? next)
  have uids : other.owner.uid ≠ call.owner.uid :=
    fun same => different (apart other (listed other member) call self same)
  obtain ⟨now, calm⟩ := MemoryCluster.after_calm (call.effect before).2 probe between
  rw [whole, calm] at still ⊢
  rw [← sameKind, ← samePlace] at still ⊢
  exact other.run_of_holds still uids wanted probe

/-- One stack creates an object and updates it; another one then fails to take it over. -/
theorem control_until_deletion_of_two_owners :
    let stack (name uid : String) : Kind.appStack.Object :=
      ⟨{ name := some name, namespaceName := some "prod", uid := some uid },
        ⟨{ image := "shop:1.0", port := 8080, podDisruptionBudget := true, monitoring := true }⟩⟩
    let reference (name uid : String) : OwnerReference :=
      { apiVersion := "steward.dev/v1alpha1", controller := some true, kind := "AppStack", name, uid }
    let desired (mode : String) : Kind.configMap.Object :=
      ⟨{ name := some "settings" }, { data := some (.ofList [("mode", mode)]) }⟩
    let call (name uid mode : String) : Call :=
      ⟨⟨"prod", reference name uid⟩, @Owner.ofObject_isController .appStack _ (stack name uid) rfl,
        @Mutator.rule .configMap .data, desired mode, "settings", rfl⟩
    let start := MemoryCluster.calm .empty ⟨[], true⟩
    let reached := start.after [call "shop" "1" "fast", call "shop" "1" "safe"]
    ((call "shop" "1" "fast").run start).result = .ok .created ∧
      ((call "blog" "2" "fast").run reached).result =
        .error (.ownershipConflict "ConfigMap" "prod" "settings" "AppStack/shop") ∧
      ((call "blog" "2" "fast").run reached).state = reached := by
  intro stack reference desired call start reached
  have created : ((call "shop" "1" "fast").run start).result = .ok .created := rfl
  have apart : ∀ a ∈ [call "shop" "1" "fast", call "shop" "1" "safe", call "blog" "2" "fast"],
      ∀ b ∈ [call "shop" "1" "fast", call "shop" "1" "safe", call "blog" "2" "fast"],
        a.owner.uid = b.owner.uid → a.owner = b.owner := by
    simp [call, reference, Owner.uid]
  obtain ⟨-, fails⟩ := @control_until_deletion .empty ⟨[], true⟩ []
    [call "shop" "1" "safe", call "blog" "2" "fast"] (call "shop" "1" "fast") apart rfl _ created
    [call "shop" "1" "safe"] [call "blog" "2" "fast"] rfl ⟨fun tagged => absurd tagged (by decide), trivial⟩
  exact ⟨created, fails (call "blog" "2" "fast") rfl (by decide) rfl rfl rfl⟩

end Reconciliation
