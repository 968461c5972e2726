import Reconciliation.Api.Client
import Reconciliation.Managed
import Reconciliation.MemoryStore
import Reconciliation.Proofs.Asking

/-! # What the requests of a call are about

A call is about the objects of its kind: so are all its requests to a cluster, and all requests to the server
that these become. Finding out whether a kind is served takes requests of another sort, which are not about
objects at all. Only calls for optional kinds have both.
-/

namespace Reconciliation

/-- Whether a request to a cluster is about objects of a kind. -/
def Cluster.Request.IsAbout (kind : Kind) : Cluster.Request → Prop
  | get asked _ _ => asked = kind
  | write change => change.resource.kind = kind
  | probe .. => False

namespace Reconcile

variable {kind : Kind}

theorem commit_asks {change : Write} (about : change.resource.kind = kind) (outcome : Outcome) :
    (commit change outcome).Asks (Cluster.Request.IsAbout kind) :=
  .ask about fun _ => .done _

theorem settle_asks (owner : Owner) (mutate : Mutate kind.Object) (wanted : kind.Object)
    (existing : Option kind.Object) :
    (settle owner mutate wanted existing).Asks (Cluster.Request.IsAbout kind) := by
  cases existing with
  | none =>
    simp only [settle, create]
    split
    · exact .done _
    · split
      · exact .done _
      · exact commit_asks (by rfl) _
  | some existing =>
    simp only [settle, update]
    split
    · exact commit_asks (by rfl) _
    · split
      · exact .done _
      · exact .done _
      · exact commit_asks (by rfl) _

end Reconcile

/-- A call is about its kind only. -/
theorem reconcile_asks {kind : Kind} (owner : Owner) (mutate : Mutate kind.Object) (desired : kind.Object) :
    (reconcile owner mutate desired).Asks (Cluster.Request.IsAbout kind) := by
  rw [reconcile]
  split
  · exact .done _
  · refine .ask rfl fun answer => ?_
    cases answer with
    | error failure => exact .done _
    | ok existing => exact Reconcile.settle_asks owner mutate _ existing

namespace Api

theorem serve_bind {α β : Type} (program : Program Cluster α) (next : α → Program Cluster β) :
    serve (program.bind next) = (serve program).bind fun result => serve (next result) :=
  @Program.expand_bind Cluster Api α β perform program next

theorem serve_map {α β : Type} (f : α → β) (program : Program Cluster α) :
    serve (program.map f) = (serve program).map f :=
  @Program.expand_map Cluster Api α β perform f program

theorem serve_ask {α : Type} (request : Cluster.Request) (next : request.Answer → Program Cluster α) :
    serve (.ask request next) = (perform request).bind fun answer => serve (next answer) := rfl

/-- Whether a request is about what is served, and not about objects. -/
def Request.IsDiscovery : Request → Prop
  | listGroups | listGroupResources .. | listCoreVersions | listCoreResources _ => True
  | read .. | create .. | replace .. | remove .. => False

/-- The kind of the objects that a request is about. -/
def Request.kind? : Request → Option Kind
  | read kind _ | remove kind _ _ => some kind
  | create _ resource | replace _ resource => some resource.kind
  | listGroups | listGroupResources .. | listCoreVersions | listCoreResources _ => none

theorem Request.isDiscovery_iff {request : Request} : request.IsDiscovery ↔ request.kind? = none := by
  cases request <;> simp [IsDiscovery, kind?]

theorem Request.method_of_discovery {request : Request} (discovery : request.IsDiscovery) : request.method = "GET" := by
  cases request with
  | listGroups | listGroupResources _ _ | listCoreVersions | listCoreResources _ => rfl
  | _ => exact discovery.elim

section Asks

variable {allowed : Request → Prop} {α : Type}

theorem askAbout_asks {request : Request} (permitted : allowed request)
    (judge : request.Answer → Except Failure α) : (askAbout request judge).Asks allowed := by
  rw [askAbout]
  split
  · exact .ask permitted fun _ => .done _
  · exact .done _

theorem askItem_asks {request : Request} (permitted : allowed request) (name : String)
    (judge : request.Answer → Except Failure α) : (askItem name request judge).Asks allowed := by
  rw [askItem]
  split
  · exact .done _
  · exact askAbout_asks permitted judge

theorem inItsNamespace_asks {resource : Resource} {act : String → Program Api (Except Failure α)}
    (acts : ∀ namespaceName, (act namespaceName).Asks allowed) :
    (inItsNamespace resource act).Asks allowed := by
  rw [inItsNamespace]
  split
  · exact acts _
  · exact .done _

theorem performWrite_asks (change : Write) :
    (performWrite change).Asks fun request : Request => request.kind? = some change.resource.kind := by
  cases change with
  | create resource => exact inItsNamespace_asks fun _ => askAbout_asks (by rfl) _
  | update resource => exact inItsNamespace_asks fun _ => askItem_asks (by rfl) _ _
  | delete resource policy => exact inItsNamespace_asks fun _ => askItem_asks (by rfl) _ _

/-- A request to the cluster about a kind becomes requests to the server about this kind. -/
theorem perform_asks {kind : Kind} {request : Cluster.Request} (about : request.IsAbout kind) :
    (perform request).Asks fun request : Request => request.kind? = some kind := by
  cases request with
  | get asked namespaceName name =>
    cases about
    exact askItem_asks (by rfl) _ _
  | write change =>
    cases about
    exact performWrite_asks change
  | probe groupVersion name => exact about.elim

end Asks

namespace Discovery

theorem query_asks {request : Request} (discovery : request.IsDiscovery) :
    (query request).Asks Request.IsDiscovery := by
  rw [query]
  split
  · exact .ask discovery fun _ => .done _
  · exact .done _

theorem versionListings_asks (group : String) (versions : List String)
    {list : String → Program Api (Except RequestFailure (List ServedResource))}
    (lists : ∀ version, (list version).Asks Request.IsDiscovery) :
    (versionListings group versions list).Asks Request.IsDiscovery := by
  rw [versionListings]
  split
  · exact .done _
  · exact .each (fun version => (lists version).map) versions

theorem listGroup_asks (group : String) (listings : List GroupListing) :
    (listGroup group listings).Asks Request.IsDiscovery := by
  refine Program.Asks.map (Program.Asks.each (fun listing => ?_) _)
  apply versionListings_asks
  intro version
  exact @query_asks (.listGroupResources listing.name version) trivial

theorem listCore_asks : listCore.Asks Request.IsDiscovery := by
  refine Program.Asks.andThen (@query_asks .listCoreVersions trivial) fun versions => ?_
  apply versionListings_asks
  intro version
  exact @query_asks (.listCoreResources version) trivial

/-- Finding out whether a kind is served takes no request about objects. -/
theorem probe_asks (groupVersion kind : String) : (probe groupVersion kind).Asks Request.IsDiscovery := by
  rw [probe]
  obtain ⟨group, version⟩ := splitGroupVersion groupVersion
  refine Program.Asks.andThen (@query_asks .listGroups trivial) fun listings => ?_
  refine Program.Asks.andThen (listGroup_asks group listings) fun listed => ?_
  split
  · exact listCore_asks.map
  · exact .done _

end Discovery

/-- A call becomes requests to the server about its kind only. -/
theorem serve_reconcile_asks {kind : Kind} (owner : Owner) (mutate : Mutate kind.Object)
    (desired : kind.Object) :
    (serve (reconcile owner mutate desired)).Asks fun request : Request => request.kind? = some kind :=
  (reconcile_asks owner mutate desired).expand fun _ about => perform_asks about

/-- Whether a kind is served is asked at the most, and nothing about objects. -/
theorem serve_find_asks (availability : Availability) (groupVersion kind : String) :
    (serve (availability.find groupVersion kind)).Asks Request.IsDiscovery := by
  rw [Availability.find]
  split
  · exact .done _
  · refine Program.Asks.bind (Discovery.probe_asks groupVersion kind).map fun answer => ?_
    cases answer with
    | error failure => exact .done _
    | ok served => exact .done _

end Api

end Reconciliation
