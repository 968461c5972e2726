import Reconciliation.Reconcile

/-! # How each kind is managed

A *toggled* kind can be switched off for an owner: a desired object that is not enabled is tagged for
deletion. An *optional* kind is one that the cluster may not serve; its objects are left alone as
long as it does not. Which kinds are which is fixed, and a kind that is neither is always reconciled.
-/

namespace Reconciliation

/-- Kinds whose objects can be switched off. -/
def Kind.isToggled : Kind → Bool
  | podDisruptionBudget | prometheusRule | serviceMonitor | podMonitor | grafanaDashboard => true
  | _ => false

/-- Kinds that a cluster may not serve. -/
def Kind.isOptional : Kind → Bool
  | route | imageStream | prometheusRule | serviceMonitor | podMonitor | grafanaDashboard => true
  | _ => false

/-- Kinds whose objects an owner can have. An app stack is an owner itself. -/
def Kind.isManaged : Kind → Bool
  | appStack => false
  | _ => true

/-- The object, or the object tagged for deletion if its kind can be switched off and it is. -/
def Object.ifEnabled {kind : Kind} (object : kind.Object) (enabled : Bool) : kind.Object :=
  if kind.isToggled && !enabled then Object.tagForDeletion object none else object

/-- Reconcile an object in the way of its kind. What is known about the kinds that are served is used
and extended. -/
def reconcileManaged {kind : Kind} (owner : Owner) (mutate : Mutate kind.Object) (desired : kind.Object)
    (enabled : Bool) (availability : Availability) :
    Program Cluster (Except Failure Outcome × Availability) :=
  let desired := Object.ifEnabled desired enabled
  if kind.isOptional then reconcileIfServed owner mutate desired availability
  else (reconcile owner mutate desired).map (·, availability)

end Reconciliation
