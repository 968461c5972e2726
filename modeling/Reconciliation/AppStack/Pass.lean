import Reconciliation.AppStack.Parts
import Reconciliation.Managed

/-! # A pass over an app stack

A pass reconciles every part of a stack, even if an earlier one failed, and fails with the first
failure. A stack that is being deleted is left to the server, which deletes what is subordinate to it.
-/

namespace Reconciliation.AppStack

/-- Reconcile parts in order; what is learned about the kinds that are served is kept on the way. -/
def reconcileParts (owner : Owner) :
    List Part → Availability → Program Cluster (List (Except Failure Outcome))
  | [], _ => .done []
  | part :: rest, availability =>
      (reconcileManaged owner part.mutator.mutate part.desired part.enabled availability).bind
        fun (result, availability) =>
          (reconcileParts owner rest availability).map (result :: ·)

/-- The first failure, if there is one. -/
def firstFailure : List (Except Failure Outcome) → Except Failure Unit
  | [] => .ok ()
  | .error failure :: _ => .error failure
  | .ok _ :: rest => firstFailure rest

/-- What to wait for after a pass that did not fail. -/
inductive Next
  /-- The stack has to change. -/
  | change
  /-- The usual interval. -/
  | interval
deriving DecidableEq, Repr

/-- One pass over a stack. -/
def pass (stack : Stack) : Program Cluster (Except Failure Next) :=
  if stack.metadata.deletionTimestamp.isSome then .done (.ok .change)
  else
    match Owner.ofObject .appStack stack with
    | .error failure => .done (.error failure)
    | .ok owner =>
        (reconcileParts owner (parts stack) .unknown).map fun results =>
          (firstFailure results).map fun _ => .interval

end Reconciliation.AppStack
