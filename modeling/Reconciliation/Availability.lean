import Reconciliation.Cluster

/-! # Which kinds are served

A cluster may or may not have been taught a kind. `Availability` remembers the answers of one pass, so
that the cluster is asked about a kind only until it has answered once; a failure is no answer.
-/

namespace Reconciliation

/-- The answers so far, by group version and kind. -/
structure Availability where
  known : List ((String × String) × Bool)
deriving DecidableEq, Repr

namespace Availability

/-- Nothing is known yet. -/
def unknown : Availability := ⟨[]⟩

/-- What is known about a kind. -/
def get? (availability : Availability) (groupVersion kind : String) : Option Bool :=
  availability.known.lookup (groupVersion, kind)

/-- Remember an answer. -/
def learn (availability : Availability) (groupVersion kind : String) (served : Bool) : Availability :=
  ⟨((groupVersion, kind), served) :: availability.known⟩

/-- Whether a kind is served; the cluster is asked only if that is not known. -/
def find (availability : Availability) (groupVersion kind : String) :
    Program Cluster (Except Failure Bool × Availability) :=
  match availability.get? groupVersion kind with
  | some served => .done (.ok served, availability)
  | none =>
      .ask (.probe groupVersion kind) fun
        | .ok served => .done (.ok served, availability.learn groupVersion kind served)
        | .error failure => .done (.error failure, availability)

end Availability

end Reconciliation
