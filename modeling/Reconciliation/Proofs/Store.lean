import Reconciliation.MemoryStore

/-! # What a store keeps

A store files every object under the place that its metadata name, and no write breaks this. A write
touches one place only, and one that fails touches nothing.
-/

namespace Reconciliation

namespace Inventory

/-- Every object is at the place that its own metadata name. -/
def Filed (inventory : Inventory) : Prop :=
  ∀ kind place object, inventory.get? kind place = some object → object.metadata.place = place

theorem filed_empty : empty.Filed := by
  intro kind place object found
  cases found

theorem Filed.put {inventory : Inventory} (filed : inventory.Filed) (resource : Resource) :
    (inventory.put resource.place resource).Filed := by
  obtain ⟨kind, object⟩ := resource
  intro other place stored found
  by_cases here : (kind, (⟨kind, object⟩ : Resource).place) = (other, place)
  · cases here
    rw [get?_put_same] at found
    cases found
    rfl
  · rw [get?_put_of_ne _ _ here] at found
    exact filed other place stored found

theorem Filed.remove {inventory : Inventory} (filed : inventory.Filed) (kind : Kind) (place : Place) :
    (inventory.remove kind place).Filed := by
  intro other elsewhere stored found
  by_cases here : (kind, place) = (other, elsewhere)
  · cases here
    rw [get?_remove_same] at found
    cases found
  · rw [get?_remove_of_ne _ here] at found
    exact filed other elsewhere stored found

theorem contains_eq_isSome (inventory : Inventory) (kind : Kind) (place : Place) :
    inventory.contains kind place = (inventory.get? kind place).isSome := rfl

end Inventory

namespace MemoryStore

variable {store : MemoryStore}

/-- The store of an inventory that refuses nothing. -/
def calm (inventory : Inventory) : MemoryStore := ⟨inventory, fun _ => []⟩

theorem get_of_refused {refusal : ApiStatus} {later : List ApiStatus}
    (due : store.refusals .get = refusal :: later) (kind : Kind) (place : Place) :
    (store.get kind place).1 = .error (.refused refusal) := by
  simp only [get, respond, due]

theorem get_of_ready (ready : store.refusals .get = []) (kind : Kind) (place : Place) :
    store.get kind place = (.ok (store.inventory.get? kind place), store) := by
  simp only [get, respond, ready]

/-- Reading changes no object. -/
theorem inventory_get (store : MemoryStore) (kind : Kind) (place : Place) :
    (store.get kind place).2.inventory = store.inventory := by
  simp only [get, respond]
  split <;> rfl

theorem write_of_refused {change : Write} {refusal : ApiStatus} {later : List ApiStatus}
    (due : store.refusals change.verb = refusal :: later) :
    (store.write change).1 = .error (.refused refusal) ∧
      (store.write change).2.inventory = store.inventory := by
  simp only [write, respond, due, and_self]

theorem write_of_ready {change : Write} (ready : store.refusals change.verb = []) :
    store.write change =
      ((apply store.inventory change).1, { store with inventory := (apply store.inventory change).2 }) := by
  simp only [write, respond, ready]

@[simp] theorem write_calm (inventory : Inventory) (change : Write) :
    (calm inventory).write change = ((apply inventory change).1, calm (apply inventory change).2) :=
  write_of_ready rfl

/-- After a write, the inventory is as before or the write has been applied to it. -/
theorem inventory_write (store : MemoryStore) (change : Write) :
    (store.write change).2.inventory = store.inventory ∨
      store.write change =
        ((apply store.inventory change).1, { store with inventory := (apply store.inventory change).2 }) := by
  cases due : store.refusals change.verb with
  | nil => exact .inr (write_of_ready due)
  | cons refusal later => exact .inl (write_of_refused due).2

/-- A write that cannot be applied has no effect. -/
theorem apply_of_error {inventory : Inventory} {change : Write} {failure : Failure}
    (failed : (apply inventory change).1 = .error failure) : (apply inventory change).2 = inventory := by
  cases change with
  | create resource =>
    simp only [apply] at failed ⊢
    split at failed
    · next taken => rw [if_pos taken]
    · cases failed
  | update resource =>
    simp only [apply] at failed ⊢
    split at failed
    · cases failed
    · next absent => rw [if_neg absent]
  | delete resource policy => cases failed

/-- What has been created or updated is there. -/
theorem get?_apply_of_ok {inventory : Inventory} {change : Write} (kept : change.verb ≠ .delete)
    (success : (apply inventory change).1 = .ok ()) :
    (apply inventory change).2.get? change.resource.kind change.resource.place =
      some change.resource.object := by
  cases change with
  | create resource =>
    simp only [apply] at success ⊢
    split at success
    · cases success
    · next absent =>
      rw [if_neg absent]
      exact Inventory.get?_put_same _ _ _ _
  | update resource =>
    simp only [apply] at success ⊢
    split at success
    · next present =>
      rw [if_pos present]
      exact Inventory.get?_put_same _ _ _ _
    · cases success
  | delete resource policy => exact absurd rfl kept

/-- A write touches only the place of its object. -/
theorem get?_apply_of_ne (inventory : Inventory) (change : Write) {kind : Kind} {place : Place}
    (elsewhere : (change.resource.kind, change.resource.place) ≠ (kind, place)) :
    (apply inventory change).2.get? kind place = inventory.get? kind place := by
  cases change with
  | create resource =>
    simp only [apply]
    split
    · rfl
    · exact Inventory.get?_put_of_ne _ _ elsewhere
  | update resource =>
    simp only [apply]
    split
    · exact Inventory.get?_put_of_ne _ _ elsewhere
    · rfl
  | delete resource policy => exact Inventory.get?_remove_of_ne _ elsewhere

theorem filed_apply {inventory : Inventory} (filed : inventory.Filed) (change : Write) :
    (apply inventory change).2.Filed := by
  cases change with
  | create resource =>
    simp only [apply]
    split
    · exact filed
    · exact filed.put resource
  | update resource =>
    simp only [apply]
    split
    · exact filed.put resource
    · exact filed
  | delete resource policy => exact filed.remove resource.kind resource.place

theorem filed_seed (filed : store.inventory.Filed) (resource : Resource) :
    (store.seed resource).inventory.Filed := filed.put resource

theorem filed_write (filed : store.inventory.Filed) (change : Write) :
    (store.write change).2.inventory.Filed := by
  rcases inventory_write store change with same | applied
  · exact same ▸ filed
  · rw [applied]
    exact filed_apply filed change

/-- The stores that come from the empty one by what can be done to a store. -/
inductive Reached : MemoryStore → Prop
  | empty : Reached .empty
  | seed {store : MemoryStore} (before : Reached store) (resource : Resource) : Reached (store.seed resource)
  | refuse {store : MemoryStore} (before : Reached store) (verb : Verb) (refusal : ApiStatus) :
      Reached (store.refuse verb refusal)
  | get {store : MemoryStore} (before : Reached store) (kind : Kind) (place : Place) :
      Reached (store.get kind place).2
  | write {store : MemoryStore} (before : Reached store) (change : Write) : Reached (store.write change).2

/-- Objects are filed in every store that can be reached. -/
theorem Reached.filed (reached : Reached store) : store.inventory.Filed := by
  induction reached with
  | empty => exact Inventory.filed_empty
  | seed before resource ih => exact filed_seed ih resource
  | refuse before verb refusal ih => exact ih
  | get before kind place ih => exact (inventory_get _ kind place).symm ▸ ih
  | write before change ih => exact filed_write ih change

/-- A write that fails, for whatever reason, has no effect. -/
theorem inventory_write_of_error {change : Write} {failure : Failure}
    (failed : (store.write change).1 = .error failure) :
    (store.write change).2.inventory = store.inventory := by
  rcases inventory_write store change with same | applied
  · exact same
  · rw [applied] at failed ⊢
    exact apply_of_error failed

/-- A write that succeeds has been applied. -/
theorem write_of_ok {change : Write} (success : (store.write change).1 = .ok ()) :
    (apply store.inventory change).1 = .ok () ∧
      (store.write change).2.inventory = (apply store.inventory change).2 := by
  cases due : store.refusals change.verb with
  | nil =>
    rw [write_of_ready due] at success ⊢
    exact ⟨success, rfl⟩
  | cons refusal later =>
    rw [(write_of_refused due).1] at success
    cases success

theorem get?_write_of_ne (store : MemoryStore) (change : Write) {kind : Kind} {place : Place}
    (elsewhere : (change.resource.kind, change.resource.place) ≠ (kind, place)) :
    (store.write change).2.inventory.get? kind place = store.inventory.get? kind place := by
  rcases inventory_write store change with same | applied
  · rw [same]
  · rw [applied]
    exact get?_apply_of_ne store.inventory change elsewhere

end MemoryStore

/-- The cluster of an inventory that refuses nothing. -/
def MemoryCluster.calm (inventory : Inventory) (probe : ScriptedProbe) : MemoryCluster :=
  ⟨.calm inventory, probe⟩

end Reconciliation
