import Reconciliation.Proofs.Store

/-! # A store with versions

A server stamps what it stores. Every object that is created or updated is stored with a version that has
never been issued before, and an update is carried out only on the version that it names. So what is stored
at a place under some version is one certain object: once the place has been written again, nothing there
ever has that version.
-/

namespace Reconciliation

/-- The object with another resource version. -/
def Resource.stamped (resource : Resource) (version : String) : Resource :=
  ⟨resource.kind, { resource.object with metadata.resourceVersion := some version }⟩

/-- Objects at the places that their metadata name, each with a version that has been issued, and all
versions ever issued. -/
structure VersionedStore where
  inventory : Inventory
  issued : List String
  filed : inventory.Filed
  versioned : ∀ kind place object, inventory.get? kind place = some object →
    ∃ version ∈ issued, object.metadata.resourceVersion = some version

namespace VersionedStore

def empty : VersionedStore where
  inventory := .empty
  issued := []
  filed := Inventory.filed_empty
  versioned := by
    intro kind place object found
    cases found

/-- Store an object at its place, stamped with a version. -/
def put (store : VersionedStore) (version : String) (resource : Resource) : VersionedStore where
  inventory := store.inventory.put resource.place (resource.stamped version)
  issued := version :: store.issued
  filed := store.filed.put (resource.stamped version)
  versioned := by
    intro kind place object found
    by_cases here : (resource.kind, resource.place) = (kind, place)
    · cases here
      rw [Resource.stamped, Inventory.get?_put_same] at found
      cases found
      exact ⟨version, List.mem_cons_self, rfl⟩
    · rw [Resource.stamped, Inventory.get?_put_of_ne _ _ here] at found
      obtain ⟨earlier, listed, stamped⟩ := store.versioned kind place object found
      exact ⟨earlier, List.mem_cons_of_mem _ listed, stamped⟩

/-- Remove the object at a place. -/
def remove (store : VersionedStore) (kind : Kind) (place : Place) : VersionedStore where
  inventory := store.inventory.remove kind place
  issued := store.issued
  filed := store.filed.remove kind place
  versioned := by
    intro other elsewhere object found
    by_cases here : (kind, place) = (other, elsewhere)
    · cases here
      rw [Inventory.get?_remove_same] at found
      cases found
    · rw [Inventory.get?_remove_of_ne _ here] at found
      exact store.versioned other elsewhere object found

/-- Carry out a write, with the version for what it stores. A new object needs a free place, and an update
has to name the version that is stored. -/
def write (store : VersionedStore) (version : String) : Write → Except Failure Unit × VersionedStore
  | .create resource =>
      if store.inventory.contains resource.kind resource.place then
        (.error (.refused (.ofReason 409 "AlreadyExists")), store)
      else (.ok (), store.put version resource)
  | .update resource =>
      match store.inventory.get? resource.kind resource.place with
      | none => (.error (.refused (.ofReason 404 "NotFound")), store)
      | some stored =>
          if stored.metadata.resourceVersion = resource.object.metadata.resourceVersion then
            (.ok (), store.put version resource)
          else (.error (.refused (.ofReason 409 "Conflict")), store)
  | .delete resource _ => (.ok (), store.remove resource.kind resource.place)

/-- Answer a request, with the version for what it stores. Every kind is served. -/
def handler (version : String) : Handler Cluster VersionedStore
  | .get kind namespaceName name, store => (.ok (store.inventory.get? kind ⟨namespaceName, name⟩), store)
  | .write change, store => store.write version change
  | .probe .., store => (.ok true, store)

variable {store : VersionedStore} {version : String} {change : Write} {resource : Resource} {kind : Kind}
  {place : Place}

theorem get?_put_same (store : VersionedStore) (version : String) (resource : Resource) :
    (store.put version resource).inventory.get? resource.kind resource.place =
      some (resource.stamped version).object := Inventory.get?_put_same _ _ _ _

theorem get?_put_of_ne (store : VersionedStore) (version : String)
    (elsewhere : (resource.kind, resource.place) ≠ (kind, place)) :
    (store.put version resource).inventory.get? kind place = store.inventory.get? kind place :=
  Inventory.get?_put_of_ne _ _ elsewhere

/-- What a write does: it is refused without an effect, it stores its object, or it removes one. -/
theorem write_cases (store : VersionedStore) (version : String) (change : Write) :
    (∃ refusal, store.write version change = (.error (.refused refusal), store)) ∨
      (change.verb ≠ .delete ∧ store.write version change = (.ok (), store.put version change.resource)) ∨
      (change.verb = .delete ∧
        store.write version change = (.ok (), store.remove change.resource.kind change.resource.place)) := by
  cases change with
  | create resource =>
    simp only [write]
    split
    · exact .inl ⟨_, rfl⟩
    · exact .inr (.inl ⟨Verb.noConfusion, rfl⟩)
  | update resource =>
    simp only [write]
    split
    · exact .inl ⟨_, rfl⟩
    · split
      · exact .inr (.inl ⟨Verb.noConfusion, rfl⟩)
      · exact .inl ⟨_, rfl⟩
  | delete resource policy => exact .inr (.inr ⟨rfl, rfl⟩)

/-- No version is forgotten. -/
theorem issued_write {earlier : String} (listed : earlier ∈ store.issued) :
    earlier ∈ (store.write version change).2.issued := by
  rcases store.write_cases version change with ⟨_, refused⟩ | ⟨-, stored⟩ | ⟨-, removed⟩
  · rwa [refused]
  · rw [stored]
    exact List.mem_cons_of_mem _ listed
  · rwa [removed]

/-- A write that fails is a refusal of the server, and has no effect. -/
theorem write_of_error {failure : Failure} (failed : (store.write version change).1 = .error failure) :
    (∃ refusal, failure = .refused refusal) ∧ (store.write version change).2 = store := by
  rcases store.write_cases version change with ⟨refusal, refused⟩ | ⟨-, stored⟩ | ⟨-, removed⟩
  · rw [refused] at failed ⊢
    cases failed
    exact ⟨⟨refusal, rfl⟩, rfl⟩
  · rw [stored] at failed
    cases failed
  · rw [removed] at failed
    cases failed

/-- A write touches only the place of its object. -/
theorem get?_write_of_ne (elsewhere : (change.resource.kind, change.resource.place) ≠ (kind, place)) :
    (store.write version change).2.inventory.get? kind place = store.inventory.get? kind place := by
  rcases store.write_cases version change with ⟨_, refused⟩ | ⟨-, stored⟩ | ⟨-, removed⟩
  · rw [refused]
  · rw [stored]
    exact store.get?_put_of_ne version elsewhere
  · rw [removed]
    exact Inventory.get?_remove_of_ne _ elsewhere

/-- Where a write has succeeded, there is an object with the new version or none. -/
theorem version_of_write (success : (store.write version change).1 = .ok ())
    {stored : change.resource.kind.Object}
    (found : (store.write version change).2.inventory.get? change.resource.kind change.resource.place =
      some stored) :
    stored.metadata.resourceVersion = some version := by
  rcases store.write_cases version change with ⟨_, refused⟩ | ⟨-, put⟩ | ⟨-, removed⟩
  · rw [refused] at success
    cases success
  · rw [put, get?_put_same] at found
    cases found
    rfl
  · rw [removed] at found
    cases found.symm.trans (Inventory.get?_remove_same _ _ _)

/-- What has been created or updated is there, with the new version. -/
theorem get?_write_of_ok (kept : change.verb ≠ .delete) (success : (store.write version change).1 = .ok ()) :
    (store.write version change).2.inventory.get? change.resource.kind change.resource.place =
      some (change.resource.stamped version).object := by
  rcases store.write_cases version change with ⟨_, refused⟩ | ⟨-, put⟩ | ⟨deletes, -⟩
  · rw [refused] at success
    cases success
  · rw [put]
    exact store.get?_put_same version change.resource
  · exact absurd deletes kept

/-- Only a free place is created at. -/
theorem get?_of_create_ok (success : (store.write version (.create resource)).1 = .ok ()) :
    store.inventory.get? resource.kind resource.place = none := by
  simp only [write] at success
  split at success
  · cases success
  · next free => simpa [Inventory.contains_eq_isSome] using free

/-- Only the version that an update names is replaced. -/
theorem get?_of_update_ok (success : (store.write version (.update resource)).1 = .ok ()) :
    ∃ stored, store.inventory.get? resource.kind resource.place = some stored ∧
      stored.metadata.resourceVersion = resource.object.metadata.resourceVersion := by
  simp only [write] at success
  split at success
  · cases success
  · next stored found =>
    split at success
    · next same => exact ⟨stored, found, same⟩
    · cases success

end VersionedStore

end Reconciliation
