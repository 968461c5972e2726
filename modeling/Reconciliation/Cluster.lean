import Reconciliation.DeletionTag
import Reconciliation.Failure
import Reconciliation.Object.Kind
import Reconciliation.Program

/-! # What reconciling needs of a cluster

Three kinds of requests: to read one object, to write one, and to find out whether a kind is served at
all. They say nothing about how the cluster keeps its objects.
-/

namespace Reconciliation

/-- A change of one object. -/
inductive Write
  /-- Add an object; there has to be none of its kind, namespace and name. -/
  | create (resource : Resource)
  /-- Replace the object of the same kind, namespace and name; there has to be one. -/
  | update (resource : Resource)
  /-- Remove an object if it is there, and do to its subordinates what the policy says. -/
  | delete (resource : Resource) (policy : Option PropagationPolicy)

namespace Cluster

inductive Request
  /-- The object of a kind, namespace and name, if there is one. -/
  | get (kind : Kind) (namespaceName name : String)
  | write (write : Write)
  /-- Whether a kind is served under a group and version. -/
  | probe (groupVersion kind : String)

/-- The answers to a request; each request may fail. -/
abbrev Request.Answer : Request → Type
  | get kind _ _ => Except Failure (Option kind.Object)
  | write _ => Except Failure Unit
  | probe _ _ => Except Failure Bool

end Cluster

/-- The requests to a cluster. -/
abbrev Cluster : Interface := ⟨Cluster.Request, Cluster.Request.Answer⟩

end Reconciliation
