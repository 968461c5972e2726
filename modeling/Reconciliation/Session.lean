import Reconciliation.Managed
import Reconciliation.MemoryStore
import Reconciliation.Mutator

/-! # Sessions

A session is a sequence of steps on a cluster in memory, on behalf of one owner: prepare the cluster, or
reconcile an object and report what happened.
-/

namespace Reconciliation

/-- How an object is reconciled. -/
inductive Manner
  | always
  /-- Only if its kind is served. -/
  | ifServed
  /-- In the way of its kind. -/
  | managed (enabled : Bool)
deriving DecidableEq, Repr

/-- An object to reconcile. -/
structure Assignment where
  kind : Kind
  desired : kind.Object
  mutator : Mutator kind
  manner : Manner

namespace Assignment

/-- The program of an assignment. -/
def program (assignment : Assignment) (owner : Owner) (availability : Availability) :
    Program Cluster (Except Failure Outcome × Availability) :=
  let mutate := assignment.mutator.mutate
  match assignment.manner with
  | .always => (reconcile owner mutate assignment.desired).map (·, availability)
  | .ifServed => reconcileIfServed owner mutate assignment.desired availability
  | .managed enabled => reconcileManaged owner mutate assignment.desired enabled availability

end Assignment

inductive Step
  /-- Put an object into the store. -/
  | seed (resource : Resource)
  /-- Prepare a refusal. -/
  | refuse (verb : Verb) (refusal : ApiStatus)
  /-- Go on with the script of the kinds that are served. -/
  | script (answers : List (Except ApiStatus Bool))
  /-- Forget which kinds are served. -/
  | newPass
  | reconcile (assignment : Assignment)

/-- What a step that reconciles did, and the objects that are there afterwards. -/
structure Report where
  result : Except Failure Outcome
  exchanges : List (Exchange Cluster)
  inventory : Inventory

/-- The cluster, and what is known in the current pass. -/
structure Session where
  cluster : MemoryCluster
  availability : Availability

namespace Session

/-- A session on an empty store, with what is answered once there is no script. -/
def start (fallback : Bool) : Session := ⟨⟨.empty, ⟨[], fallback⟩⟩, .unknown⟩

def step (owner : Owner) (session : Session) : Step → Session × Option Report
  | .seed resource => ({ session with cluster.store := session.cluster.store.seed resource }, none)
  | .refuse verb refusal =>
      ({ session with cluster.store := session.cluster.store.refuse verb refusal }, none)
  | .script answers =>
      ({ session with cluster.probe.script := session.cluster.probe.script ++ answers }, none)
  | .newPass => ({ session with availability := .unknown }, none)
  | .reconcile assignment =>
      let run := (assignment.program owner session.availability).run MemoryCluster.handler session.cluster
      let (result, availability) := run.result
      (⟨run.state, availability⟩, some ⟨result, run.exchanges, run.state.store.inventory⟩)

/-- The reports of steps in order. -/
def reports (owner : Owner) : Session → List Step → List Report
  | _, [] => []
  | session, next :: rest =>
      let (session, report) := session.step owner next
      report.toList ++ reports owner session rest

end Session

end Reconciliation
