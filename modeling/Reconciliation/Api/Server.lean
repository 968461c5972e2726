import Reconciliation.Api.Request
import Reconciliation.SortedMap

/-! # A server in memory

The server keeps objects as they are sent, one under each path, and lists what it serves under paths as
well; a request is answered by its path alone. The server refuses to replace an object that has been
written since the version that the new one names. Faults can be prepared: the first that is for the method
and path of a request, and is not used up, is the answer, and the request has no effect.
-/

namespace Reconciliation.Api

/-- What a version of a group serves. -/
structure ServedVersion where
  version : String
  resources : List ServedResource
deriving DecidableEq, Repr

structure ServedGroup where
  name : String
  versions : List ServedVersion
deriving DecidableEq, Repr

/-- An answer prepared for requests of a method and path. -/
structure Fault where
  method : String
  path : String
  rejection : Rejection
  /-- How often it is still given; always, if absent. -/
  times : Option Nat := none
deriving DecidableEq, Repr

namespace Fault

/-- Whether a fault is the answer to requests of a method and path. -/
def isFor (fault : Fault) (method path : String) : Bool :=
  fault.method == method && fault.path == path && fault.times != some 0

/-- The fault after it has been given once more. -/
def used (fault : Fault) : Fault := { fault with times := fault.times.map (· - 1) }

end Fault

/-- The objects by their paths, what is served, and the faults that are prepared. -/
structure Server where
  items : SortedMap String Resource
  groups : List ServedGroup
  core : List ServedVersion
  faults : List Fault

namespace Server

/-- The first fault for a request, and the faults after it has been given. -/
def takeFault (request : Request) : List Fault → Option (Rejection × List Fault)
  | [] => none
  | fault :: rest =>
      if fault.isFor request.method request.path then some (fault.rejection, fault.used :: rest)
      else (takeFault request rest).map fun (rejection, rest) => (rejection, fault :: rest)

/-- Add an object under a path, unless there is one. -/
def create (items : SortedMap String Resource) (path : String) (resource : Resource) :
    Except Rejection Unit × SortedMap String Resource :=
  if items.contains path then (.error (.status (.alreadyExists "already exists")), items)
  else (.ok (), items.insert path resource)

/-- Replace the object under a path by one that names its version. -/
def replace (items : SortedMap String Resource) (path : String) (resource : Resource) :
    Except Rejection Unit × SortedMap String Resource :=
  match items.get? path with
  | none => (.error .notFound, items)
  | some stored =>
      if stored.object.metadata.resourceVersion = resource.object.metadata.resourceVersion then
        (.ok (), items.insert path resource)
      else (.error (.status (.conflict "object has been modified")), items)

/-- Remove the object under a path. -/
def remove (items : SortedMap String Resource) (path : String) :
    Except Rejection Unit × SortedMap String Resource :=
  if items.contains path then (.ok (), items.erase path) else (.error .notFound, items)

/-- What is served, under the paths where it is listed. Of two listings under one path the first counts. -/
def listings (server : Server) : List (String × List ServedResource) :=
  (server.groups.flatMap fun group => group.versions.map fun served =>
    (Request.groupVersionPath group.name served.version, served.resources)) ++
  server.core.map fun served => (Request.coreVersionPath served.version, served.resources)

/-- Whether something that is served is listed under a path. -/
def lists (server : Server) (path : String) : Bool :=
  path ∈ [Request.groupsPath, Request.corePath] ++ server.listings.map (·.1)

/-- The resources that are listed under a path. -/
def resourcesAt (server : Server) (path : String) : Except Rejection (List ServedResource) :=
  match server.listings.lookup path with
  | some resources => .ok resources
  | none => .error .notFound

/-- Answer a request for which there is no fault. An object without a name is added under an empty one. -/
def respond (server : Server) (request : Request) : request.Answer × SortedMap String Resource :=
  match request with
  | .read .. =>
      match server.items.get? request.path with
      | some resource => (.ok resource, server.items)
      | none => (.error .notFound, server.items)
  | .create _ resource =>
      create server.items (request.path ++ "/" ++ resource.object.metadata.name.getD "") resource
  | .replace _ resource => replace server.items request.path resource
  | .remove .. => remove server.items request.path
  | .listGroups =>
      (.ok (server.groups.map fun group => ⟨group.name, group.versions.map (·.version)⟩), server.items)
  | .listCoreVersions => (.ok (server.core.map (·.version)), server.items)
  | .listGroupResources .. | .listCoreResources _ => (server.resourcesAt request.path, server.items)

/-- Answer a request. -/
def handler : Handler Api Server := fun request server =>
  match takeFault request server.faults with
  | some (rejection, faults) => (.error rejection, { server with faults })
  | none =>
      let (answer, items) := server.respond request
      (answer, { server with items })

/-- The exchanges that are not about what is served. -/
def logged (server : Server) (exchanges : List (Exchange Api)) : List (Exchange Api) :=
  exchanges.filter fun exchange => !server.lists (Request.path exchange.request)

/-- Put an object under its path, whatever was there. -/
def place (server : Server) (resource : Resource) : Server :=
  let path := resource.kind.itemPath resource.object.metadata.place
  { server with items := server.items.insert path resource }

/-- Remove what is under a path. -/
def removePath (server : Server) (path : String) : Server :=
  { server with items := server.items.erase path }

end Server

end Reconciliation.Api
