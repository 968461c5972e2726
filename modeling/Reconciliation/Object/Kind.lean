import Reconciliation.Object.Access
import Reconciliation.Object.AppStack
import Reconciliation.Object.Configuration
import Reconciliation.Object.Deployment
import Reconciliation.Object.Disruption
import Reconciliation.Object.Monitoring
import Reconciliation.Object.OpenShift
import Reconciliation.Object.Scaling
import Reconciliation.Object.Service
import Reconciliation.Object.Storage

/-! # Kinds of objects

An object is its metadata and a content whose type depends on the kind. A *custom* kind is one that
the cluster has been taught: its objects have to have metadata, their `apiVersion` and `kind` members
are not looked at when they are read, and they can also be read from rows. For a built-in kind these two
members may be missing, but not wrong.

The structures of built-in kinds have more members than are described here. The others are ignored when an object is
read. No rule governs one of them by itself: rules compare and replace such structures as a whole.
-/

namespace Reconciliation

/-- The kinds of objects, in the order of their names. -/
inductive Kind
  | appStack
  | configMap
  | deployment
  | grafanaDashboard
  | horizontalPodAutoscaler
  | imageStream
  | persistentVolumeClaim
  | podDisruptionBudget
  | podMonitor
  | prometheusRule
  | role
  | roleBinding
  | route
  | secret
  | service
  | serviceAccount
  | serviceMonitor
deriving DecidableEq, Repr

/-- An object: metadata and a content. -/
structure Object (α : Type) where
  metadata : ObjectMeta
  content : α
deriving DecidableEq

/-- The name of an object, or else what a generated name would start with. -/
def Object.nameAny {α : Type} (object : Object α) : String := object.metadata.nameAny

/-- An object with the same metadata and another content. -/
def Object.withContent {α : Type} (object : Object α) (content : α) : Object α := { object with content }

namespace Kind

/-- All kinds, in the order of their names. -/
def all : List Kind :=
  [appStack, configMap, deployment, grafanaDashboard, horizontalPodAutoscaler, imageStream,
    persistentVolumeClaim, podDisruptionBudget, podMonitor, prometheusRule, role, roleBinding, route,
    secret, service, serviceAccount, serviceMonitor]

theorem mem_all (kind : Kind) : kind ∈ all := by cases kind <;> decide

def name : Kind → String
  | appStack => "AppStack"
  | configMap => "ConfigMap"
  | deployment => "Deployment"
  | grafanaDashboard => "GrafanaDashboard"
  | horizontalPodAutoscaler => "HorizontalPodAutoscaler"
  | imageStream => "ImageStream"
  | persistentVolumeClaim => "PersistentVolumeClaim"
  | podDisruptionBudget => "PodDisruptionBudget"
  | podMonitor => "PodMonitor"
  | prometheusRule => "PrometheusRule"
  | role => "Role"
  | roleBinding => "RoleBinding"
  | route => "Route"
  | secret => "Secret"
  | service => "Service"
  | serviceAccount => "ServiceAccount"
  | serviceMonitor => "ServiceMonitor"

/-- The kind of a given name. -/
def ofName? (name : String) : Option Kind := all.find? fun kind => kind.name == name

/-- The group of interfaces that serves a kind, empty for the core group. -/
def group : Kind → String
  | appStack => "steward.dev"
  | deployment => "apps"
  | grafanaDashboard => "integreatly.org"
  | horizontalPodAutoscaler => "autoscaling"
  | imageStream => "image.openshift.io"
  | podDisruptionBudget => "policy"
  | podMonitor | prometheusRule | serviceMonitor => "monitoring.coreos.com"
  | role | roleBinding => "rbac.authorization.k8s.io"
  | route => "route.openshift.io"
  | configMap | persistentVolumeClaim | secret | service | serviceAccount => ""

/-- The version of the group in which a kind is used. -/
def version : Kind → String
  | appStack | grafanaDashboard => "v1alpha1"
  | horizontalPodAutoscaler => "v2"
  | _ => "v1"

/-- Group and version, as objects name them. -/
def apiVersion (kind : Kind) : String :=
  if kind.group.isEmpty then kind.version else kind.group ++ "/" ++ kind.version

/-- The name of a kind in request paths. -/
def plural : Kind → String
  | appStack => "appstacks"
  | configMap => "configmaps"
  | deployment => "deployments"
  | grafanaDashboard => "grafanadashboards"
  | horizontalPodAutoscaler => "horizontalpodautoscalers"
  | imageStream => "imagestreams"
  | persistentVolumeClaim => "persistentvolumeclaims"
  | podDisruptionBudget => "poddisruptionbudgets"
  | podMonitor => "podmonitors"
  | prometheusRule => "prometheusrules"
  | role => "roles"
  | roleBinding => "rolebindings"
  | route => "routes"
  | secret => "secrets"
  | service => "services"
  | serviceAccount => "serviceaccounts"
  | serviceMonitor => "servicemonitors"

/-- Whether a kind is one that the cluster has been taught. -/
def isCustom : Kind → Bool
  | appStack | grafanaDashboard | imageStream | podMonitor | prometheusRule | route | serviceMonitor => true
  | _ => false

/-- What objects of a kind consist of besides their metadata. -/
abbrev Content : Kind → Type
  | appStack => AppStack
  | configMap => ConfigMap
  | deployment => Deployment
  | grafanaDashboard => GrafanaDashboard
  | horizontalPodAutoscaler => HorizontalPodAutoscaler
  | imageStream => ImageStream
  | persistentVolumeClaim => PersistentVolumeClaim
  | podDisruptionBudget => PodDisruptionBudget
  | podMonitor => PodMonitor
  | prometheusRule => PrometheusRule
  | role => Role
  | roleBinding => RoleBinding
  | route => Route
  | secret => Secret
  | service => Service
  | serviceAccount => ServiceAccount
  | serviceMonitor => ServiceMonitor

instance instDecidableEqContent : (kind : Kind) → DecidableEq kind.Content
  | appStack => inferInstanceAs (DecidableEq AppStack)
  | configMap => inferInstanceAs (DecidableEq ConfigMap)
  | deployment => inferInstanceAs (DecidableEq Deployment)
  | grafanaDashboard => inferInstanceAs (DecidableEq GrafanaDashboard)
  | horizontalPodAutoscaler => inferInstanceAs (DecidableEq HorizontalPodAutoscaler)
  | imageStream => inferInstanceAs (DecidableEq ImageStream)
  | persistentVolumeClaim => inferInstanceAs (DecidableEq PersistentVolumeClaim)
  | podDisruptionBudget => inferInstanceAs (DecidableEq PodDisruptionBudget)
  | podMonitor => inferInstanceAs (DecidableEq PodMonitor)
  | prometheusRule => inferInstanceAs (DecidableEq PrometheusRule)
  | role => inferInstanceAs (DecidableEq Role)
  | roleBinding => inferInstanceAs (DecidableEq RoleBinding)
  | route => inferInstanceAs (DecidableEq Route)
  | secret => inferInstanceAs (DecidableEq Secret)
  | service => inferInstanceAs (DecidableEq Service)
  | serviceAccount => inferInstanceAs (DecidableEq ServiceAccount)
  | serviceMonitor => inferInstanceAs (DecidableEq ServiceMonitor)

/-- The objects of a kind. -/
abbrev Object (kind : Kind) : Type := Reconciliation.Object kind.Content

/-- The members of the content of a kind. -/
def record : (kind : Kind) → Record kind.Content kind.Content
  | appStack => AppStack.record
  | configMap => ConfigMap.record
  | deployment => Deployment.record
  | grafanaDashboard => GrafanaDashboard.record
  | horizontalPodAutoscaler => HorizontalPodAutoscaler.record
  | imageStream => ImageStream.record
  | persistentVolumeClaim => PersistentVolumeClaim.record
  | podDisruptionBudget => PodDisruptionBudget.record
  | podMonitor => PodMonitor.record
  | prometheusRule => PrometheusRule.record
  | role => Role.record
  | roleBinding => RoleBinding.record
  | route => Route.record
  | secret => Secret.record
  | service => Service.record
  | serviceAccount => ServiceAccount.record
  | serviceMonitor => ServiceMonitor.record

/-- Whether `member`, if an object has it at all, is the string that it should be. -/
def agrees (member : Option Json) (expected : String) : Bool :=
  match member with
  | none => true
  | some (.string value) => value == expected
  | some _ => false

/-- The metadata of an object that is read as one of this kind. -/
def readMetadata? (kind : Kind) : Option Json → Option ObjectMeta
  | none | some .null => if kind.isCustom then none else some default
  | some json => ObjectMeta.codec.decode? json

/-- How objects of a kind are written and read. -/
def codec (kind : Kind) : Codec kind.Object where
  encode object := .object <|
    [("apiVersion", .string kind.apiVersion), ("kind", .string kind.name),
      ("metadata", ObjectMeta.codec.encode object.metadata)] ++ kind.record.write object.content
  decode?
    | .object members => do
        if kind.isCustom || (agrees (members.lookup "apiVersion") kind.apiVersion &&
            agrees (members.lookup "kind") kind.name) then
          let metadata ← kind.readMetadata? (members.lookup "metadata")
          let content ← kind.record.read? fun name => members.lookup name
          return ⟨metadata, content⟩
        else none
    | .array (metadata :: row) => do
        if kind.isCustom then
          let metadata ← kind.readMetadata? (some metadata)
          let content ← kind.record.ofRow? row
          return ⟨metadata, content⟩
        else none
    | _ => none

end Kind

/-- An object together with its kind. -/
structure Resource where
  kind : Kind
  object : kind.Object

namespace Resource

/-- The object as one of the given kind, if it is one. -/
def as? (resource : Resource) (kind : Kind) : Option kind.Object :=
  if same : resource.kind = kind then some (same ▸ resource.object) else none

@[simp] theorem as?_same (kind : Kind) (object : kind.Object) :
    (⟨kind, object⟩ : Resource).as? kind = some object := by simp [as?]

/-- An object as it is sent. -/
def encode (resource : Resource) : Json := resource.kind.codec.encode resource.object

end Resource

end Reconciliation
