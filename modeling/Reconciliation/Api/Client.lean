import Reconciliation.Api.Answer
import Reconciliation.Api.Discovery
import Reconciliation.Cluster

/-! # Asking a cluster through its server

Every request to a cluster becomes requests to its server. An object that is written has to have a
namespace, a request for one object has to name it, and it has to be possible to send the request to its
address; otherwise nothing is sent. An object that the server does not find is no failure when it is read
or deleted.
-/

namespace Reconciliation.Api

/-- Do something with an object in its namespace. -/
def inItsNamespace {α : Type} (resource : Resource)
    (act : String → Program Api (Except Failure α)) : Program Api (Except Failure α) :=
  match resource.object.metadata.namespaceName with
  | some namespaceName => act namespaceName
  | none =>
      .done <| .error <| .invalidObject resource.kind.name
        ("'" ++ resource.object.nameAny ++ "' has no namespace")

/-- Ask a request about an object, and judge the answer. -/
def askAbout {α : Type} (request : Request) (judge : request.Answer → Except Failure α) :
    Program Api (Except Failure α) :=
  match Target.problem? request.address with
  | none => .ask request fun answer => .done (judge answer)
  | some problem => .done (.error (.request (.invalidAddress problem)))

/-- Ask a request for the object of a name, and judge the answer. -/
def askItem {α : Type} (name : String) (request : Request) (judge : request.Answer → Except Failure α) :
    Program Api (Except Failure α) :=
  if name.isEmpty then .done (.error (.request .emptyName)) else askAbout request judge

/-- Every rejection is a failure. -/
def refuseRejection (kind : Kind) : Except Rejection Unit → Except Failure Unit
  | .ok _ => .ok ()
  | .error rejection => .error (.request (rejection.failure (.object kind)))

/-- A rejection for the reason that there is no such object means that there is none. -/
def absentIfNotFound (kind : Kind) : Except Rejection Resource → Except Failure (Option kind.Object)
  | .ok resource => (readAs kind resource).map some
  | .error rejection =>
      if rejection.isError ∧ rejection.toStatus.reason = "NotFound" then .ok none
      else .error (.request (rejection.failure (.object kind)))

/-- A rejection with the code of an absent object means that it is gone, as wanted, and so does one that
is harmless. -/
def goneIfNotFound (kind : Kind) : Except Rejection Unit → Except Failure Unit
  | .ok _ => .ok ()
  | .error rejection =>
      if rejection.code = 404 ∨ rejection.isHarmless then .ok ()
      else .error (.request (rejection.failure (.object kind)))

/-- Carry out a write. -/
def performWrite : Write → Program Api (Except Failure Unit)
  | .create resource =>
      inItsNamespace resource fun namespaceName =>
        askAbout (.create namespaceName resource) (refuseRejection resource.kind)
  | .update resource =>
      inItsNamespace resource fun namespaceName =>
        let name := resource.object.nameAny
        askItem name (.replace ⟨namespaceName, name⟩ resource) (refuseRejection resource.kind)
  | .delete resource policy =>
      inItsNamespace resource fun namespaceName =>
        let name := resource.object.nameAny
        askItem name (.remove resource.kind ⟨namespaceName, name⟩ policy) (goneIfNotFound resource.kind)

/-- Answer a request to the cluster by asking its server. -/
def perform : (request : Cluster.Request) → Program Api request.Answer
  | .get kind namespaceName name =>
      askItem name (.read kind ⟨namespaceName, name⟩) (absentIfNotFound kind)
  | .write write => performWrite write
  | .probe groupVersion kind =>
      (Discovery.probe groupVersion kind).map fun found =>
        found.mapError fun cause => .capabilityProbe groupVersion kind cause

/-- A program that asks a cluster, as one that asks the server. -/
def serve {α : Type} (program : Program Cluster α) : Program Api α := program.expand perform

end Reconciliation.Api
