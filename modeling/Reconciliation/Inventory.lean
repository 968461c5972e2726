import Reconciliation.Object.Kind
import Reconciliation.Object.Place
import Reconciliation.SortedMap.Lemmas

/-! # Collections of objects

An inventory keeps objects by kind and place, at most one under each. It is a shelf for every kind, so
that an object found on a shelf has its kind by construction.
-/

namespace Reconciliation

/-- The objects of one kind. -/
abbrev Shelf (kind : Kind) : Type := SortedMap Place kind.Object

/-- The objects of all kinds. -/
structure Inventory where
  shelf : (kind : Kind) → Shelf kind

namespace Inventory

def empty : Inventory := ⟨fun _ => .empty⟩

/-- The object at a place. -/
def get? (inventory : Inventory) (kind : Kind) (place : Place) : Option kind.Object :=
  (inventory.shelf kind).get? place

/-- Whether there is an object at a place. -/
def contains (inventory : Inventory) (kind : Kind) (place : Place) : Bool :=
  (inventory.shelf kind).contains place

/-- Replace the shelf of one kind. -/
def setShelf (inventory : Inventory) (kind : Kind) (shelf : Shelf kind) : Inventory :=
  ⟨fun other => if same : kind = other then same ▸ shelf else inventory.shelf other⟩

/-- Put an object at a place. -/
def put (inventory : Inventory) (place : Place) (resource : Resource) : Inventory :=
  inventory.setShelf resource.kind ((inventory.shelf resource.kind).insert place resource.object)

/-- Remove the object at a place. -/
def remove (inventory : Inventory) (kind : Kind) (place : Place) : Inventory :=
  inventory.setShelf kind ((inventory.shelf kind).erase place)

/-- All objects, ordered by kind and place. -/
def resources (inventory : Inventory) : List Resource :=
  Kind.all.flatMap fun kind => (inventory.shelf kind).values.map fun object => ⟨kind, object⟩

theorem shelf_setShelf_same (inventory : Inventory) (kind : Kind) (shelf : Shelf kind) :
    (inventory.setShelf kind shelf).shelf kind = shelf := by simp [setShelf]

theorem shelf_setShelf_of_ne (inventory : Inventory) {kind other : Kind} (shelf : Shelf kind)
    (different : kind ≠ other) : (inventory.setShelf kind shelf).shelf other = inventory.shelf other := by
  simp [setShelf, different]

/-- Two inventories with the same objects at all places are equal. -/
theorem ext_get? {a b : Inventory} (same : ∀ kind place, a.get? kind place = b.get? kind place) : a = b := by
  obtain ⟨left⟩ := a
  obtain ⟨right⟩ := b
  congr 1
  funext kind
  exact SortedMap.ext_get? (same kind)

@[simp] theorem get?_put_same (inventory : Inventory) (kind : Kind) (place : Place) (object : kind.Object) :
    (inventory.put place ⟨kind, object⟩).get? kind place = some object := by
  simp [get?, put, shelf_setShelf_same]

/-- Putting an object at one place leaves the others as they are. -/
theorem get?_put_of_ne (inventory : Inventory) {kind other : Kind} {place elsewhere : Place}
    (object : kind.Object) (different : (kind, place) ≠ (other, elsewhere)) :
    (inventory.put place ⟨kind, object⟩).get? other elsewhere = inventory.get? other elsewhere := by
  by_cases same : kind = other
  · subst same
    have apart : place ≠ elsewhere := by
      rintro rfl
      exact different rfl
    simp [get?, put, shelf_setShelf_same, SortedMap.get?_insert_of_ne _ apart]
  · simp [get?, put, shelf_setShelf_of_ne _ _ same]

@[simp] theorem get?_remove_same (inventory : Inventory) (kind : Kind) (place : Place) :
    (inventory.remove kind place).get? kind place = none := by
  simp [get?, remove, shelf_setShelf_same]

/-- Removing the object at one place leaves the others as they are. -/
theorem get?_remove_of_ne (inventory : Inventory) {kind other : Kind} {place elsewhere : Place}
    (different : (kind, place) ≠ (other, elsewhere)) :
    (inventory.remove kind place).get? other elsewhere = inventory.get? other elsewhere := by
  by_cases same : kind = other
  · subst same
    have apart : place ≠ elsewhere := by
      rintro rfl
      exact different rfl
    simp [get?, remove, shelf_setShelf_same, SortedMap.get?_erase_of_ne _ apart]
  · simp [get?, remove, shelf_setShelf_of_ne _ _ same]

end Inventory

end Reconciliation
