import Reconciliation.Mutation

/-! # Mutators of service accounts

The pull secrets of an account are a set. The platform adds secrets of its own to it, whose names
start with the name of the account; they are kept as if they were desired.
-/

namespace Reconciliation.ServiceAccount

/-- Whether a pull secret has been added by the platform to the account of the given name. -/
def isInjected (account : String) (reference : LocalObjectReference) : Bool :=
  (account ++ "-dockercfg-").isPrefixOf reference.name || (account ++ "-token-").isPrefixOf reference.name

/-- Add a reference unless there is one of its name. -/
def addByName (references : List LocalObjectReference) (reference : LocalObjectReference) :
    List LocalObjectReference :=
  if references.any (·.name == reference.name) then references else references ++ [reference]

/-- References in the order of their names. -/
def sorted (references : List LocalObjectReference) : List LocalObjectReference :=
  references.mergeSort fun a b => a.name ≤ b.name

/-- The pull secrets become the desired ones and those that the platform has added, unless they are
the same in some order. -/
def followPullSecrets (existing desired : Object ServiceAccount) : Edit (Object ServiceAccount) :=
  let current := existing.content.imagePullSecrets.getD []
  let injected := current.filter (isInjected existing.nameAny)
  let wanted := injected.foldl addByName (desired.content.imagePullSecrets.getD [])
  if sorted current = sorted wanted then .keep existing
  else ⟨existing.withContent { existing.content with imagePullSecrets := some (sorted wanted) }, true⟩

inductive Rule
  | imagePullSecrets
deriving DecidableEq, Repr

def Rule.mutate : Rule → Mutate (Object ServiceAccount)
  | imagePullSecrets => .ofEdit followPullSecrets

end Reconciliation.ServiceAccount
