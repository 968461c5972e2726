import Reconciliation.Api.Answer

/-! # Finding out whether a kind is served

The server is asked for its groups, and for every version of the groups of the wanted name what it
serves. The core group has the empty name and is listed apart from the others.
-/

namespace Reconciliation.Api

/-- What a version of a group serves, without the parts of resources. -/
structure VersionListing where
  version : String
  resources : List ServedResource
deriving DecidableEq, Repr

namespace Discovery

/-- The group and version of `group/version`; without a slash it is a version of the core group. -/
def splitGroupVersion (groupVersion : String) : String × String :=
  let text := groupVersion.toList
  match text.dropWhile (· ≠ '/') with
  | [] => ("", groupVersion)
  | _ :: version => (String.ofList (text.takeWhile (· ≠ '/')), String.ofList version)

/-- Ask a request, and take a rejection for a failure. -/
def query (request : Request) : Program Api (Except RequestFailure request.Success) :=
  match Target.problem? request.address with
  | none => .ask request fun answer => .done (answer.mapError (·.failure request.answerType))
  | some problem => .done (.error (.invalidDiscoveryAddress problem))

/-- Ask what each of the versions of a group serves. A group has to have a version. -/
def versionListings (group : String) (versions : List String)
    (list : String → Program Api (Except RequestFailure (List ServedResource))) :
    Program Api (Except RequestFailure (List VersionListing)) :=
  if versions.isEmpty then .done (.error (.emptyApiGroup group))
  else
    Program.each
      (fun version => (list version).map fun answer => answer.map fun resources =>
        ⟨version, resources.filter fun resource => !resource.name.toList.contains '/'⟩)
      versions

/-- What the listed groups of one name serve; the last of them counts. -/
def listGroup (group : String) (listings : List GroupListing) :
    Program Api (Except RequestFailure (List VersionListing)) :=
  (Program.each
    (fun listing => versionListings listing.name listing.versions fun version =>
      query (.listGroupResources listing.name version))
    (listings.filter (·.name == group))).map fun found => found.map fun groups => groups.getLast?.getD []

/-- What the core group serves. -/
def listCore : Program Api (Except RequestFailure (List VersionListing)) :=
  (query .listCoreVersions).andThen fun versions =>
    versionListings "" versions fun version => query (.listCoreResources version)

/-- Whether the first listing of a version has a kind. -/
def isServed (version kind : String) (listings : List VersionListing) : Bool :=
  (listings.find? (·.version == version)).any fun listing => listing.resources.any (·.kind == kind)

/-- Whether a kind is served under a group and version. -/
def probe (groupVersion kind : String) : Program Api (Except RequestFailure Bool) :=
  let (group, version) := splitGroupVersion groupVersion
  (query .listGroups).andThen fun listings =>
    (listGroup group listings).andThen fun listed =>
      if group.isEmpty then listCore.map fun found => found.map (isServed version kind)
      else .done (.ok (isServed version kind listed))

end Discovery

end Reconciliation.Api
