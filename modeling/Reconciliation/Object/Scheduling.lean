import Reconciliation.Object.Metadata

/-! # Placement of pods

Where pods may run and where they had better run: affinities, tolerations and spreading.
-/

namespace Reconciliation

/-- Conditions on the labels of a node. -/
structure NodeSelectorTerm where
  matchExpressions : Option (List LabelSelectorRequirement) := none
deriving DecidableEq, Inhabited

def NodeSelectorTerm.codec : Codec NodeSelectorTerm :=
  (Record.of NodeSelectorTerm NodeSelectorTerm.mk
    |>.optional "matchExpressions" (·.matchExpressions) (.list LabelSelectorRequirement.codec)).codec

/-- Alternatives of conditions on a node. -/
structure NodeSelector where
  nodeSelectorTerms : List NodeSelectorTerm
deriving DecidableEq, Inhabited

def NodeSelector.codec : Codec NodeSelector :=
  (Record.of NodeSelector NodeSelector.mk
    |>.lenient "nodeSelectorTerms" (·.nodeSelectorTerms) (.list NodeSelectorTerm.codec)).codec

/-- The nodes that a pod may run on. -/
structure NodeAffinity where
  requiredDuringSchedulingIgnoredDuringExecution : Option NodeSelector := none
deriving DecidableEq, Inhabited

def NodeAffinity.codec : Codec NodeAffinity :=
  (Record.of NodeAffinity NodeAffinity.mk
    |>.optional "requiredDuringSchedulingIgnoredDuringExecution"
      (·.requiredDuringSchedulingIgnoredDuringExecution) NodeSelector.codec).codec

/-- Pods near which, in the sense of a label of the node, a pod should or should not run. -/
structure PodAffinityTerm where
  labelSelector : Option LabelSelector := none
  namespaces : Option (List String) := none
  topologyKey : String
deriving DecidableEq, Inhabited

def PodAffinityTerm.codec : Codec PodAffinityTerm :=
  (Record.of PodAffinityTerm PodAffinityTerm.mk
    |>.optional "labelSelector" (·.labelSelector) LabelSelector.codec
    |>.optional "namespaces" (·.namespaces) (.list .text)
    |>.lenient "topologyKey" (·.topologyKey) .text).codec

/-- A preference with its weight. -/
structure WeightedPodAffinityTerm where
  podAffinityTerm : PodAffinityTerm
  weight : Int32
deriving DecidableEq, Inhabited

def WeightedPodAffinityTerm.codec : Codec WeightedPodAffinityTerm :=
  (Record.of WeightedPodAffinityTerm WeightedPodAffinityTerm.mk
    |>.lenient "podAffinityTerm" (·.podAffinityTerm) PodAffinityTerm.codec
    |>.lenient "weight" (·.weight) .int32).codec

/-- The pods that a pod should not run near. -/
structure PodAntiAffinity where
  preferredDuringSchedulingIgnoredDuringExecution : Option (List WeightedPodAffinityTerm) := none
  requiredDuringSchedulingIgnoredDuringExecution : Option (List PodAffinityTerm) := none
deriving DecidableEq, Inhabited

def PodAntiAffinity.codec : Codec PodAntiAffinity :=
  (Record.of PodAntiAffinity PodAntiAffinity.mk
    |>.optional "preferredDuringSchedulingIgnoredDuringExecution"
      (·.preferredDuringSchedulingIgnoredDuringExecution) (.list WeightedPodAffinityTerm.codec)
    |>.optional "requiredDuringSchedulingIgnoredDuringExecution"
      (·.requiredDuringSchedulingIgnoredDuringExecution) (.list PodAffinityTerm.codec)).codec

/-- What draws a pod to nodes and keeps it from other pods. -/
structure Affinity where
  nodeAffinity : Option NodeAffinity := none
  podAntiAffinity : Option PodAntiAffinity := none
deriving DecidableEq, Inhabited

def Affinity.codec : Codec Affinity :=
  (Record.of Affinity Affinity.mk
    |>.optional "nodeAffinity" (·.nodeAffinity) NodeAffinity.codec
    |>.optional "podAntiAffinity" (·.podAntiAffinity) PodAntiAffinity.codec).codec

/-- A taint of nodes that does not keep the pod away. -/
structure Toleration where
  effect : Option String := none
  key : Option String := none
  operator : Option String := none
  tolerationSeconds : Option Int64 := none
  value : Option String := none
deriving DecidableEq, Inhabited

def Toleration.codec : Codec Toleration :=
  (Record.of Toleration Toleration.mk
    |>.optional "effect" (·.effect) .text
    |>.optional "key" (·.key) .text
    |>.optional "operator" (·.operator) .text
    |>.optional "tolerationSeconds" (·.tolerationSeconds) .int64
    |>.optional "value" (·.value) .text).codec

/-- How evenly pods are spread over the values of a label of the nodes. -/
structure TopologySpreadConstraint where
  labelSelector : Option LabelSelector := none
  maxSkew : Int32
  topologyKey : String
  whenUnsatisfiable : String
deriving DecidableEq, Inhabited

def TopologySpreadConstraint.codec : Codec TopologySpreadConstraint :=
  (Record.of TopologySpreadConstraint TopologySpreadConstraint.mk
    |>.optional "labelSelector" (·.labelSelector) LabelSelector.codec
    |>.lenient "maxSkew" (·.maxSkew) .int32
    |>.lenient "topologyKey" (·.topologyKey) .text
    |>.lenient "whenUnsatisfiable" (·.whenUnsatisfiable) .text).codec

end Reconciliation
