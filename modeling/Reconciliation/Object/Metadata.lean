import Reconciliation.Codec

/-! # Metadata of objects

What every object carries whatever its kind, and the selectors by which objects pick others by label.
-/

namespace Reconciliation

/-- A reference to the object that this one is subordinate to. -/
structure OwnerReference where
  apiVersion : String
  blockOwnerDeletion : Option Bool := none
  /-- Whether the owner manages this object; at most one owner should. -/
  controller : Option Bool := none
  kind : String
  name : String
  uid : String
deriving DecidableEq, Inhabited

def OwnerReference.codec : Codec OwnerReference :=
  (Record.of OwnerReference OwnerReference.mk
    |>.lenient "apiVersion" (·.apiVersion) .text
    |>.optional "blockOwnerDeletion" (·.blockOwnerDeletion) .flag
    |>.optional "controller" (·.controller) .flag
    |>.lenient "kind" (·.kind) .text
    |>.lenient "name" (·.name) .text
    |>.lenient "uid" (·.uid) .text).codec

/-- Identity and bookkeeping of an object. -/
structure ObjectMeta where
  annotations : Option StringMap := none
  creationTimestamp : Option String := none
  /-- Set once the object is being deleted. -/
  deletionTimestamp : Option String := none
  finalizers : Option (List String) := none
  /-- What a generated name starts with. -/
  generateName : Option String := none
  generation : Option Int64 := none
  labels : Option StringMap := none
  name : Option String := none
  namespaceName : Option String := none
  ownerReferences : Option (List OwnerReference) := none
  /-- Changes with every write; an update has to name the current one. -/
  resourceVersion : Option String := none
  uid : Option String := none
deriving DecidableEq, Inhabited

def ObjectMeta.codec : Codec ObjectMeta :=
  (Record.of ObjectMeta ObjectMeta.mk
    |>.optional "annotations" (·.annotations) .stringMap
    |>.optional "creationTimestamp" (·.creationTimestamp) .text
    |>.optional "deletionTimestamp" (·.deletionTimestamp) .text
    |>.optional "finalizers" (·.finalizers) (.list .text)
    |>.optional "generateName" (·.generateName) .text
    |>.optional "generation" (·.generation) .int64
    |>.optional "labels" (·.labels) .stringMap
    |>.optional "name" (·.name) .text
    |>.optional "namespace" (·.namespaceName) .text
    |>.optional "ownerReferences" (·.ownerReferences) (.list OwnerReference.codec)
    |>.optional "resourceVersion" (·.resourceVersion) .text
    |>.optional "uid" (·.uid) .text).codec

namespace ObjectMeta

/-- The name, or else what a generated name would start with. -/
def nameAny (metadata : ObjectMeta) : String :=
  (metadata.name.or metadata.generateName).getD ""

/-- The namespace, empty if there is none. -/
def namespaceOrEmpty (metadata : ObjectMeta) : String := metadata.namespaceName.getD ""

end ObjectMeta

/-- A condition on the value of one label. -/
structure LabelSelectorRequirement where
  key : String
  operator : String
  values : Option (List String) := none
deriving DecidableEq, Inhabited

def LabelSelectorRequirement.codec : Codec LabelSelectorRequirement :=
  (Record.of LabelSelectorRequirement LabelSelectorRequirement.mk
    |>.lenient "key" (·.key) .text
    |>.lenient "operator" (·.operator) .text
    |>.optional "values" (·.values) (.list .text)).codec

/-- A condition on the labels of an object. -/
structure LabelSelector where
  matchExpressions : Option (List LabelSelectorRequirement) := none
  matchLabels : Option StringMap := none
deriving DecidableEq, Inhabited

def LabelSelector.codec : Codec LabelSelector :=
  (Record.of LabelSelector LabelSelector.mk
    |>.optional "matchExpressions" (·.matchExpressions) (.list LabelSelectorRequirement.codec)
    |>.optional "matchLabels" (·.matchLabels) .stringMap).codec

end Reconciliation
