import Reconciliation.Mutation
import Reconciliation.Object.Kind

/-! # Owners

Every managed object is subordinate to an owner: it lives in the namespace of the owner, and the one
controller reference among its owner references is the owner's. `Owner.adopt` establishes the latter
and refuses an object that another owner controls.
-/

namespace Reconciliation

/-- The namespace that managed objects live in, and the reference that they carry. -/
structure Owner where
  namespaceName : String
  reference : OwnerReference
deriving DecidableEq

namespace Owner

def uid (owner : Owner) : String := owner.reference.uid

/-- Kind and name of the owner. -/
def describe (owner : Owner) : String := owner.reference.kind ++ "/" ++ owner.reference.name

/-- The owner that an object is. It has to be persisted: to have a namespace, a name and a uid. -/
def ofObject (kind : Kind) (object : kind.Object) : Except Failure Owner :=
  let described := kind.name ++ "/" ++ object.nameAny
  match object.metadata.namespaceName, object.metadata.name, object.metadata.uid with
  | none, _, _ => .error (.invalidOwner (described ++ " has no namespace"))
  | some namespaceName, some name, some uid =>
      .ok {
        namespaceName
        reference := {
          apiVersion := kind.apiVersion
          controller := some true
          kind := kind.name
          name
          uid } }
  | some _, _, _ => .error (.invalidOwner (described ++ " has no name or uid"))

/-- Whether a reference is to a controller other than the owner. -/
def isForeignController (owner : Owner) (reference : OwnerReference) : Bool :=
  reference.controller == some true && reference.uid != owner.uid

/-- Make the owner's reference the only one to the owner. It keeps its place if it is already there
alone, and comes last otherwise. -/
def setReference (owner : Owner) (references : List OwnerReference) : Edit (List OwnerReference) :=
  if references.filter (·.uid == owner.uid) = [owner.reference] then .keep references
  else ⟨references.filter (·.uid != owner.uid) ++ [owner.reference], true⟩

/-- Make the owner the controller of an object, unless another one is. -/
def adopt (kind : Kind) (owner : Owner) (object : kind.Object) : Mutation kind.Object :=
  let references := object.metadata.ownerReferences.getD []
  match references.find? owner.isForeignController with
  | some foreign =>
      .refused object <| .ownershipConflict kind.name object.metadata.namespaceOrEmpty object.nameAny
        (foreign.kind ++ "/" ++ foreign.name)
  | none =>
      .done <| (owner.setReference references).map fun references =>
        { object with metadata.ownerReferences := some references }

end Owner

end Reconciliation
