import Reconciliation.Cluster
import Reconciliation.Inventory
import Reconciliation.Object.Place

/-! # A store in memory

A store keeps an inventory in which every object is at the place that its own metadata name. Refusals
can be prepared for each verb: the next requests with that verb are refused with them, in order, and
have no effect.
-/

namespace Reconciliation

/-- The requests that a store answers, by what they do. -/
inductive Verb
  | get
  | create
  | update
  | delete
deriving DecidableEq, Repr

namespace Verb

def name : Verb → String
  | get => "get"
  | create => "create"
  | update => "update"
  | delete => "delete"

def ofName? (name : String) : Option Verb := [get, create, update, delete].find? fun verb => verb.name == name

end Verb

/-- What a write does. -/
def Write.verb : Write → Verb
  | create _ => .create
  | update _ => .update
  | delete _ _ => .delete

/-- The object that a write is about. -/
def Write.resource : Write → Resource
  | create resource | update resource | delete resource _ => resource

def Resource.place (resource : Resource) : Place := resource.object.metadata.place

/-- A request to a store in words: the verb, the kind, and the place of the object, and for a deletion
the policy. A question about a kind is not for the store. -/
def Cluster.Request.words? : Cluster.Request → Option (List String)
  | get kind namespaceName name => some [Verb.get.name, kind.name, namespaceName, name]
  | write change =>
      let resource := change.resource
      some <| [change.verb.name, resource.kind.name, resource.place.namespaceName, resource.place.name] ++
        match change with
        | .delete _ policy => [(policy.map (·.name)).getD "default"]
        | _ => []
  | probe .. => none

/-- Objects, and the refusals that are due for each verb. -/
structure MemoryStore where
  inventory : Inventory
  refusals : Verb → List ApiStatus

namespace MemoryStore

def empty : MemoryStore := ⟨.empty, fun _ => []⟩

/-- Put an object at its place, whatever was there. -/
def seed (store : MemoryStore) (resource : Resource) : MemoryStore :=
  { store with inventory := store.inventory.put resource.place resource }

/-- Prepare a refusal of the next request with a verb for which none is due yet. -/
def refuse (store : MemoryStore) (verb : Verb) (refusal : ApiStatus) : MemoryStore :=
  { store with
    refusals := fun other =>
      if other = verb then store.refusals other ++ [refusal] else store.refusals other }

/-- Use up the first refusal that is due for a verb, or answer from the inventory if none is. -/
def respond {α : Type} (store : MemoryStore) (verb : Verb)
    (answer : Inventory → Except Failure α × Inventory) : Except Failure α × MemoryStore :=
  match store.refusals verb with
  | refusal :: later =>
      (.error (.refused refusal),
        { store with refusals := fun other => if other = verb then later else store.refusals other })
  | [] =>
      let (found, inventory) := answer store.inventory
      (found, { store with inventory })

/-- Change the inventory. Removing an object that is absent is no failure. -/
def apply (inventory : Inventory) : Write → Except Failure Unit × Inventory
  | .create resource =>
      if inventory.contains resource.kind resource.place then
        (.error (.refused (.ofReason 409 "AlreadyExists")), inventory)
      else (.ok (), inventory.put resource.place resource)
  | .update resource =>
      if inventory.contains resource.kind resource.place then (.ok (), inventory.put resource.place resource)
      else (.error (.refused (.ofReason 404 "NotFound")), inventory)
  | .delete resource _ => (.ok (), inventory.remove resource.kind resource.place)

/-- The object of a kind at a place. -/
def get (store : MemoryStore) (kind : Kind) (place : Place) :
    Except Failure (Option kind.Object) × MemoryStore :=
  store.respond .get fun inventory => (.ok (inventory.get? kind place), inventory)

/-- Carry out a write. -/
def write (store : MemoryStore) (write : Write) : Except Failure Unit × MemoryStore :=
  store.respond write.verb fun inventory => apply inventory write

end MemoryStore

/-- Answers to the questions which kinds are served: those of the script, and then always the same. -/
structure ScriptedProbe where
  script : List (Except ApiStatus Bool)
  fallback : Bool

namespace ScriptedProbe

/-- The next answer. -/
def probe (scripted : ScriptedProbe) (groupVersion kind : String) : Except Failure Bool × ScriptedProbe :=
  match scripted.script with
  | [] => (.ok scripted.fallback, scripted)
  | answer :: later =>
      (answer.mapError fun refusal => .capabilityProbe groupVersion kind (.refused refusal),
        { scripted with script := later })

end ScriptedProbe

/-- A cluster in memory: a store and a script of the kinds that are served. -/
structure MemoryCluster where
  store : MemoryStore
  probe : ScriptedProbe

namespace MemoryCluster

/-- Answer a request from memory. -/
def handler : Handler Cluster MemoryCluster
  | .get kind namespaceName name, cluster =>
      let (found, store) := cluster.store.get kind ⟨namespaceName, name⟩
      (found, { cluster with store })
  | .write write, cluster =>
      let (done, store) := cluster.store.write write
      (done, { cluster with store })
  | .probe groupVersion kind, cluster =>
      let (served, probe) := cluster.probe.probe groupVersion kind
      (served, { cluster with probe })

end MemoryCluster

end Reconciliation
