import Reconciliation.Object.Container
import Reconciliation.Object.Scheduling
import Reconciliation.Object.Volume

/-! # Pods

The pods that a deployment creates.
-/

namespace Reconciliation

/-- What a pod runs and where. -/
structure PodSpec where
  affinity : Option Affinity := none
  containers : List Container
  /-- Run one after the other before the containers start. -/
  initContainers : Option (List Container) := none
  nodeSelector : Option StringMap := none
  priorityClassName : Option String := none
  restartPolicy : Option String := none
  serviceAccountName : Option String := none
  terminationGracePeriodSeconds : Option Int64 := none
  tolerations : Option (List Toleration) := none
  topologySpreadConstraints : Option (List TopologySpreadConstraint) := none
  volumes : Option (List Volume) := none
deriving DecidableEq, Inhabited

def PodSpec.codec : Codec PodSpec :=
  (Record.of PodSpec PodSpec.mk
    |>.optional "affinity" (·.affinity) Affinity.codec
    |>.lenient "containers" (·.containers) (.list Container.codec)
    |>.optional "initContainers" (·.initContainers) (.list Container.codec)
    |>.optional "nodeSelector" (·.nodeSelector) .stringMap
    |>.optional "priorityClassName" (·.priorityClassName) .text
    |>.optional "restartPolicy" (·.restartPolicy) .text
    |>.optional "serviceAccountName" (·.serviceAccountName) .text
    |>.optional "terminationGracePeriodSeconds" (·.terminationGracePeriodSeconds) .int64
    |>.optional "tolerations" (·.tolerations) (.list Toleration.codec)
    |>.optional "topologySpreadConstraints" (·.topologySpreadConstraints)
      (.list TopologySpreadConstraint.codec)
    |>.optional "volumes" (·.volumes) (.list Volume.codec)).codec

/-- The pods to create: their metadata and what they run. -/
structure PodTemplateSpec where
  metadata : Option ObjectMeta := none
  spec : Option PodSpec := none
deriving DecidableEq, Inhabited

def PodTemplateSpec.codec : Codec PodTemplateSpec :=
  (Record.of PodTemplateSpec PodTemplateSpec.mk
    |>.optional "metadata" (·.metadata) ObjectMeta.codec
    |>.optional "spec" (·.spec) PodSpec.codec).codec

end Reconciliation
