import Reconciliation.Api.StatusCode
import Reconciliation.Api.Target
import Reconciliation.DeletionTag
import Reconciliation.Failure
import Reconciliation.Object.Kind
import Reconciliation.Object.Place
import Reconciliation.Operator
import Reconciliation.Program

/-! # Requests to the interface of a cluster

The server of a cluster keeps every object as an item of a collection, which has a path, and lists the
groups, versions and kinds that it serves under paths of their own. A request is kept as what it asks
for; method, target and body are computed from that.
-/

namespace Reconciliation

namespace Kind

/-- The path below which all collections of the kind's group and version are. -/
def rootPath (kind : Kind) : String :=
  (if kind.group.isEmpty then "/api/" else "/apis/") ++ kind.apiVersion

/-- The path of the objects of a kind in one namespace. -/
def collectionPath (kind : Kind) (namespaceName : String) : String :=
  kind.rootPath ++ "/namespaces/" ++ namespaceName ++ "/" ++ kind.plural

/-- The path of the objects of a kind in the given namespace, or in all. -/
def watchPath (kind : Kind) : Option String → String
  | some namespaceName => kind.collectionPath namespaceName
  | none => kind.rootPath ++ "/" ++ kind.plural

/-- The path of one object. -/
def itemPath (kind : Kind) (place : Place) : String :=
  kind.collectionPath place.namespaceName ++ "/" ++ place.name

end Kind

namespace Api

/-- A group that the server lists, with its versions. -/
structure GroupListing where
  name : String
  versions : List String
deriving DecidableEq, Repr

/-- A collection that the server lists for a version of a group. -/
structure ServedResource where
  name : String
  kind : String
deriving DecidableEq, Repr

/-- An answer that is no success: a status, or a text that is none. -/
inductive Rejection
  | status (refusal : ApiStatus)
  | text (code : Nat) (body : String)
deriving DecidableEq, Repr

inductive Request
  | read (kind : Kind) (place : Place)
  /-- Add an object to the collection of a namespace. -/
  | create (namespaceName : String) (resource : Resource)
  | replace (place : Place) (resource : Resource)
  | remove (kind : Kind) (place : Place) (policy : Option PropagationPolicy)
  | listGroups
  | listGroupResources (group version : String)
  | listCoreVersions
  | listCoreResources (version : String)

namespace Request

/-- What a successful request answers. -/
abbrev Success : Request → Type
  | read .. => Resource
  | create .. | replace .. | remove .. => Unit
  | listGroups => List GroupListing
  | listCoreVersions => List String
  | listGroupResources .. | listCoreResources _ => List ServedResource

abbrev Answer (request : Request) : Type := Except Rejection request.Success

def method : Request → String
  | create .. => "POST"
  | replace .. => "PUT"
  | remove .. => "DELETE"
  | read .. | listGroups | listGroupResources .. | listCoreVersions | listCoreResources _ => "GET"

/-- Where the groups are listed. -/
def groupsPath : String := "/apis"

/-- Where the versions of the core group are listed. -/
def corePath : String := "/api"

/-- Where it is listed what a version of a group serves. -/
def groupVersionPath (group version : String) : String := groupsPath ++ "/" ++ group ++ "/" ++ version

/-- Where it is listed what a version of the core group serves. -/
def coreVersionPath (version : String) : String := corePath ++ "/" ++ version

/-- What a request is about, as a path. -/
def subject : Request → String
  | read kind place => kind.itemPath place
  | create namespaceName resource => resource.kind.collectionPath namespaceName
  | replace place resource => resource.kind.itemPath place
  | remove kind place _ => kind.itemPath place
  | listGroups => groupsPath
  | listGroupResources group version => groupVersionPath group version
  | listCoreVersions => corePath
  | listCoreResources version => coreVersionPath version

/-- The name under which writes are made. -/
def fieldManager : String := operatorName

/-- What follows the subject of a request. -/
def parameters : Request → String
  | create .. | replace .. => "?&fieldManager=" ++ fieldManager
  | remove .. => "?"
  | _ => ""

/-- The text that describes where a request goes. -/
def address (request : Request) : String := request.subject ++ request.parameters

/-- Where a request goes. A subject can have characters that end its path early. -/
def target (request : Request) : Target := .ofString request.address

def path (request : Request) : String := request.target.path

def query (request : Request) : String := request.target.query

/-- What is sent with a request. -/
def body? : Request → Option Json
  | create _ resource | replace _ resource => some resource.encode
  | remove _ _ policy =>
      some <| .object <| (policy.map fun policy => ("propagationPolicy", .string policy.name)).toList
  | _ => none

/-- The code of a successful answer. -/
def successCode : Request → Nat
  | create .. => 201
  | _ => 200

end Request

namespace Rejection

/-- The rejection of a request for something that is not there. -/
def notFound : Rejection := .status (.notFound "not found")

def code : Rejection → Nat
  | status refusal => refusal.code
  | text code _ => code

/-- Whether the code of a rejection is one of an error. With any other code it is taken for a success. -/
def isError (rejection : Rejection) : Bool := StatusCode.isError rejection.code

/-- Whether a rejection is a status whose code is not one of an error. -/
def isHarmless : Rejection → Bool
  | status refusal => !StatusCode.isError refusal.code
  | text .. => false

/-- The status that a rejection is taken for. A text becomes the message, quoted. -/
def toStatus : Rejection → ApiStatus
  | status refusal => refusal
  | text code body => {
      status := StatusCode.line code
      message := Text.Quoted.encode body
      reason := "Failed to parse error data"
      code }

end Rejection

end Api

/-- The requests to the server of a cluster. -/
abbrev Api : Interface := ⟨Api.Request, Api.Request.Answer⟩

/-- The code of the answer that was given to a request. -/
def Api.statusCode (exchange : Exchange Api) : Nat :=
  match exchange.answer with
  | .ok _ => exchange.request.successCode
  | .error rejection => rejection.code

end Reconciliation
