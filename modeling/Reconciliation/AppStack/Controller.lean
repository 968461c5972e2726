import Reconciliation.AppStack.Pass
import Reconciliation.Api.Client
import Reconciliation.Api.Server

/-! # The controller of app stacks

The controller lists the stacks of the namespace it watches and passes over the one it finds, at once
and then again after an interval that depends on whether the last pass failed. A namespace with characters
that cannot stand in a path, or that end it, hides its stacks from the controller. Time passes only between
passes. Meanwhile others may change the objects of the server, or what it serves; the controller goes on
with the stack as it was listed.
-/

namespace Reconciliation.AppStack

open Api

/-- What a controller is told: where to look for stacks, and how many seconds to wait after a pass. -/
structure Controller where
  watchNamespace : Option String
  requeueInterval : Nat
  errorRequeue : Nat
deriving DecidableEq, Repr

/-- Something that others do. -/
inductive Intervention
  | put (resource : Resource)
  /-- Remove the object that has the path. -/
  | remove (path : String)
  | serve (groups : List ServedGroup)

def Intervention.apply (server : Server) : Intervention → Server
  | put resource => server.place resource
  | remove path => server.removePath path
  | serve groups => { server with groups }

/-- Things that others do at one second, in order. -/
structure Event where
  time : Nat
  interventions : List Intervention

/-- An exchange with the server, and the second of it. -/
structure TimedExchange where
  time : Nat
  exchange : Exchange Api

/-- A server together with the time of the next pass, if there is to be one, and the exchanges so far that
were not about what the server serves. -/
structure Timeline where
  server : Server
  due : Option Nat
  log : List TimedExchange

namespace Controller

/-- The path of the collection of a kind in the watched namespace. -/
def collectionPath (controller : Controller) (kind : Kind) : String :=
  kind.watchPath controller.watchNamespace

/-- What is asked of a collection: the first objects that are in it. -/
def listQuery : String := "limit=500"

/-- Where a collection is asked for its objects. Nothing is asked if nothing can be sent to the address, or
if the target ends before the query. -/
def listedPath? (controller : Controller) (kind : Kind) : Option String :=
  let address := controller.collectionPath kind ++ "?&" ++ listQuery
  let target := Target.ofString address
  if (Target.problem? address).isNone && target.query.endsWith listQuery then some target.path else none

/-- The paths that are asked for objects. -/
def watchedPaths (controller : Controller) : List String :=
  [Kind.appStack, .deployment, .service].filterMap controller.listedPath?

/-- Whether a stack is in a watched namespace. -/
def watches (controller : Controller) (stack : Stack) : Bool :=
  controller.watchNamespace.all fun namespaceName => stack.metadata.namespaceName == some namespaceName

/-- The stack that is found when the stacks are listed under the path of their collection. A fault for that
path is the answer instead. -/
def listed? (controller : Controller) (server : Server) : Option Stack :=
  let path := controller.collectionPath .appStack
  if controller.listedPath? .appStack = some path && !server.faults.any (·.isFor "GET" path) then
    (server.items.values.filterMap (·.as? .appStack)).find? controller.watches
  else none

/-- How many seconds after a pass the next one is, at least one. -/
def delay (controller : Controller) : Except Failure Next → Option { seconds : Nat // 0 < seconds }
  | .ok .change => none
  | .ok .interval => some ⟨max controller.requeueInterval 1, by omega⟩
  | .error _ => some ⟨max controller.errorRequeue 1, by omega⟩

/-- Let all passes happen that are due until a time, the first of them at `time`. -/
def passes (controller : Controller) (stack : Stack) (limit time : Nat) (server : Server)
    (log : List TimedExchange) : Timeline :=
  if limit < time then ⟨server, some time, log⟩
  else
    let run := (Api.serve (pass stack)).run Server.handler server
    let log := log ++ (server.logged run.exchanges).map (⟨time, ·⟩)
    match controller.delay run.result with
    | none => ⟨run.state, none, log⟩
    | some ⟨seconds, _⟩ => controller.passes stack limit (time + seconds) run.state log
termination_by limit + 1 - time

/-- Let a time come, with all passes that are due until then. -/
def advance (controller : Controller) (stack : Option Stack) (limit : Nat) (timeline : Timeline) :
    Timeline :=
  match stack, timeline.due with
  | some stack, some time => controller.passes stack limit time timeline.server timeline.log
  | _, _ => timeline

/-- Let the time of an event come, and then the event. -/
def meet (controller : Controller) (stack : Option Stack) (timeline : Timeline) (event : Event) :
    Timeline :=
  let timeline := controller.advance stack event.time timeline
  { timeline with server := event.interventions.foldl Intervention.apply timeline.server }

/-- Run the controller up to a second. All events happen, even those after it. -/
def run (controller : Controller) (server : Server) (events : List Event) (seconds : Nat) : Timeline :=
  let stack := controller.listed? server
  controller.advance stack seconds <|
    events.foldl (controller.meet stack) { server, due := some 0, log := [] }

end Controller

end Reconciliation.AppStack
