import Reconciliation.Availability
import Reconciliation.Metadata
import Reconciliation.Mutation
import Reconciliation.Owner

/-! # Reconciling one object

`reconcile` reads the object and makes at most one change. What it does depends on whether the object
exists and whether the desired one is tagged for deletion:

* absent and tagged: nothing;
* existing and tagged: delete it, whoever controls it;
* absent and wanted: adopt the desired object and create it;
* existing and wanted: let its metadata follow, adopt it, mutate it, and write it back if any of these
  steps changed something.

A failure at any step ends the call, and as the write is the last step, nothing is half done.
-/

namespace Reconciliation

/-- What reconciling an object did. -/
inductive Outcome
  | created
  | updated
  | deleted
  /-- There was nothing to do. -/
  | unchanged
  /-- The kind is not served; nothing was read or written. -/
  | skipped
deriving DecidableEq, Repr

def Outcome.name : Outcome → String
  | created => "Created"
  | updated => "Updated"
  | deleted => "Deleted"
  | unchanged => "Unchanged"
  | skipped => "Skipped"

/-- The object in another namespace. -/
def Object.inNamespace {α : Type} (object : Object α) (namespaceName : String) : Object α :=
  { object with metadata.namespaceName := some namespaceName }

/-- The object tagged for deletion. -/
def Object.tagForDeletion {α : Type} (object : Object α) (policy : Option PropagationPolicy) : Object α :=
  { object with metadata := object.metadata.tagForDeletion policy }

namespace Reconcile

variable {kind : Kind}

/-- Write, and answer the outcome if the write succeeds. -/
def commit (write : Write) (outcome : Outcome) : Program Cluster (Except Failure Outcome) :=
  .ask (.write write) fun answer => .done (answer.map fun _ => outcome)

/-- Bring an existing object in line with a desired one: first its metadata, then its owner reference,
then what the mutator governs. -/
def bringInLine (owner : Owner) (mutate : Mutate kind.Object) : Mutate kind.Object :=
  fun existing desired =>
    (Mutation.done <| (existing.metadata.follow desired.metadata).map fun metadata =>
        { existing with metadata })
      |>.andThen (owner.adopt kind)
      |>.andThen (mutate · desired)

/-- Create a desired object that does not exist. -/
def create (owner : Owner) (desired : kind.Object) : Program Cluster (Except Failure Outcome) :=
  let adopted := owner.adopt kind desired
  match adopted.outcome with
  | .error failure => .done (.error failure)
  | .ok _ => commit (.create ⟨kind, adopted.object⟩) .created

/-- Write an existing object back if it is not in line with the desired one. -/
def update (owner : Owner) (mutate : Mutate kind.Object) (existing desired : kind.Object) :
    Program Cluster (Except Failure Outcome) :=
  let mutation := bringInLine owner mutate existing desired
  match mutation.outcome with
  | .error failure => .done (.error failure)
  | .ok false => .done (.ok .unchanged)
  | .ok true => commit (.update ⟨kind, mutation.object⟩) .updated

/-- Do what is to be done once it is known whether the object exists. -/
def settle (owner : Owner) (mutate : Mutate kind.Object) (desired : kind.Object) :
    Option kind.Object → Program Cluster (Except Failure Outcome)
  | none => if desired.metadata.isTaggedForDeletion then .done (.ok .unchanged) else create owner desired
  | some existing =>
      if desired.metadata.isTaggedForDeletion then
        commit (.delete ⟨kind, existing⟩ desired.metadata.deletionPolicy?) .deleted
      else update owner mutate existing desired

end Reconcile

open Reconcile

/-- Reconcile a desired object on behalf of an owner, in whose namespace it is. -/
def reconcile {kind : Kind} (owner : Owner) (mutate : Mutate kind.Object) (desired : kind.Object) :
    Program Cluster (Except Failure Outcome) :=
  match desired.metadata.name with
  | none => .done (.error (.invalidObject kind.name "desired object has no name"))
  | some name =>
      .ask (.get kind owner.namespaceName name) fun
        | .error failure => .done (.error failure)
        | .ok existing => settle owner mutate (desired.inNamespace owner.namespaceName) existing

/-- Reconcile a desired object unless its kind is not served. -/
def reconcileIfServed {kind : Kind} (owner : Owner) (mutate : Mutate kind.Object) (desired : kind.Object)
    (availability : Availability) : Program Cluster (Except Failure Outcome × Availability) :=
  (availability.find kind.apiVersion kind.name).bind fun (found, availability) =>
    match found with
    | .error failure => .done (.error failure, availability)
    | .ok false => .done (.ok .skipped, availability)
    | .ok true => (reconcile owner mutate desired).map (·, availability)

end Reconciliation
