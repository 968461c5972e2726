import Reconciliation.Object.Pod

/-! # Deployments

A number of equal pods, replaced step by step when their template changes.
-/

namespace Reconciliation

/-- How many pods may be missing or too many during a replacement. -/
structure RollingUpdateDeployment where
  maxSurge : Option IntOrString := none
  maxUnavailable : Option IntOrString := none
deriving DecidableEq, Inhabited

def RollingUpdateDeployment.codec : Codec RollingUpdateDeployment :=
  (Record.of RollingUpdateDeployment RollingUpdateDeployment.mk
    |>.optional "maxSurge" (·.maxSurge) IntOrString.codec
    |>.optional "maxUnavailable" (·.maxUnavailable) IntOrString.codec).codec

/-- How pods are replaced. -/
structure DeploymentStrategy where
  rollingUpdate : Option RollingUpdateDeployment := none
  type : Option String := none
deriving DecidableEq, Inhabited

def DeploymentStrategy.codec : Codec DeploymentStrategy :=
  (Record.of DeploymentStrategy DeploymentStrategy.mk
    |>.optional "rollingUpdate" (·.rollingUpdate) RollingUpdateDeployment.codec
    |>.optional "type" (·.type) .text).codec

/-- The pods of a deployment and how many there should be. -/
structure DeploymentSpec where
  minReadySeconds : Option Int32 := none
  paused : Option Bool := none
  progressDeadlineSeconds : Option Int32 := none
  replicas : Option Int32 := none
  revisionHistoryLimit : Option Int32 := none
  /-- Has to select the labels of the template. -/
  selector : LabelSelector
  strategy : Option DeploymentStrategy := none
  template : PodTemplateSpec
deriving DecidableEq, Inhabited

def DeploymentSpec.codec : Codec DeploymentSpec :=
  (Record.of DeploymentSpec DeploymentSpec.mk
    |>.optional "minReadySeconds" (·.minReadySeconds) .int32
    |>.optional "paused" (·.paused) .flag
    |>.optional "progressDeadlineSeconds" (·.progressDeadlineSeconds) .int32
    |>.optional "replicas" (·.replicas) .int32
    |>.optional "revisionHistoryLimit" (·.revisionHistoryLimit) .int32
    |>.lenient "selector" (·.selector) LabelSelector.codec
    |>.optional "strategy" (·.strategy) DeploymentStrategy.codec
    |>.lenient "template" (·.template) PodTemplateSpec.codec).codec

/-- The pods that there are. -/
structure DeploymentStatus where
  availableReplicas : Option Int32 := none
  observedGeneration : Option Int64 := none
  readyReplicas : Option Int32 := none
  replicas : Option Int32 := none
deriving DecidableEq, Inhabited

def DeploymentStatus.codec : Codec DeploymentStatus :=
  (Record.of DeploymentStatus DeploymentStatus.mk
    |>.optional "availableReplicas" (·.availableReplicas) .int32
    |>.optional "observedGeneration" (·.observedGeneration) .int64
    |>.optional "readyReplicas" (·.readyReplicas) .int32
    |>.optional "replicas" (·.replicas) .int32).codec

/-- The content of a deployment. -/
structure Deployment where
  spec : Option DeploymentSpec := none
  status : Option DeploymentStatus := none
deriving DecidableEq, Inhabited

def Deployment.record : Record Deployment Deployment :=
  Record.of Deployment Deployment.mk
    |>.optional "spec" (·.spec) DeploymentSpec.codec
    |>.optional "status" (·.status) DeploymentStatus.codec

end Reconciliation
