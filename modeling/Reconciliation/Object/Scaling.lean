import Reconciliation.Codec

/-! # Autoscalers

How many pods a deployment should have, depending on measurements.
-/

namespace Reconciliation

/-- The object that is scaled. -/
structure CrossVersionObjectReference where
  apiVersion : Option String := none
  kind : String
  name : String
deriving DecidableEq, Inhabited

def CrossVersionObjectReference.codec : Codec CrossVersionObjectReference :=
  (Record.of CrossVersionObjectReference CrossVersionObjectReference.mk
    |>.optional "apiVersion" (·.apiVersion) .text
    |>.lenient "kind" (·.kind) .text
    |>.lenient "name" (·.name) .text).codec

/-- The value that a measurement should have. -/
structure MetricTarget where
  averageUtilization : Option Int32 := none
  averageValue : Option String := none
  type : String
  value : Option String := none
deriving DecidableEq, Inhabited

def MetricTarget.codec : Codec MetricTarget :=
  (Record.of MetricTarget MetricTarget.mk
    |>.optional "averageUtilization" (·.averageUtilization) .int32
    |>.optional "averageValue" (·.averageValue) .text
    |>.lenient "type" (·.type) .text
    |>.optional "value" (·.value) .text).codec

/-- The measurement of a resource. -/
structure ResourceMetricSource where
  name : String
  target : MetricTarget
deriving DecidableEq, Inhabited

def ResourceMetricSource.codec : Codec ResourceMetricSource :=
  (Record.of ResourceMetricSource ResourceMetricSource.mk
    |>.lenient "name" (·.name) .text
    |>.lenient "target" (·.target) MetricTarget.codec).codec

/-- A measurement that the number of pods depends on. -/
structure MetricSpec where
  resource : Option ResourceMetricSource := none
  type : String
deriving DecidableEq, Inhabited

def MetricSpec.codec : Codec MetricSpec :=
  (Record.of MetricSpec MetricSpec.mk
    |>.optional "resource" (·.resource) ResourceMetricSource.codec
    |>.lenient "type" (·.type) .text).codec

/-- Bounds of the number of pods and what it depends on. -/
structure HorizontalPodAutoscalerSpec where
  maxReplicas : Int32
  metrics : Option (List MetricSpec) := none
  minReplicas : Option Int32 := none
  scaleTargetRef : CrossVersionObjectReference
deriving DecidableEq, Inhabited

def HorizontalPodAutoscalerSpec.codec : Codec HorizontalPodAutoscalerSpec :=
  (Record.of HorizontalPodAutoscalerSpec HorizontalPodAutoscalerSpec.mk
    |>.lenient "maxReplicas" (·.maxReplicas) .int32
    |>.optional "metrics" (·.metrics) (.list MetricSpec.codec)
    |>.optional "minReplicas" (·.minReplicas) .int32
    |>.lenient "scaleTargetRef" (·.scaleTargetRef) CrossVersionObjectReference.codec).codec

/-- The content of an autoscaler. -/
structure HorizontalPodAutoscaler where
  spec : Option HorizontalPodAutoscalerSpec := none
deriving DecidableEq, Inhabited

def HorizontalPodAutoscaler.record : Record HorizontalPodAutoscaler HorizontalPodAutoscaler :=
  Record.of HorizontalPodAutoscaler HorizontalPodAutoscaler.mk
    |>.optional "spec" (·.spec) HorizontalPodAutoscalerSpec.codec

end Reconciliation
