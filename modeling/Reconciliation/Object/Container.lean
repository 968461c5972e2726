import Reconciliation.Object.IntOrString

/-! # Containers

A container of a pod: its image and arguments, its environment, probes, ports, resources and mounts.
-/

namespace Reconciliation

/-- A key of a config map or secret. -/
structure KeySelector where
  key : String
  name : String
  optional : Option Bool := none
deriving DecidableEq, Inhabited

def KeySelector.codec : Codec KeySelector :=
  (Record.of KeySelector KeySelector.mk
    |>.lenient "key" (·.key) .text
    |>.lenient "name" (·.name) .text
    |>.optional "optional" (·.optional) .flag).codec

/-- A field of the pod itself. -/
structure ObjectFieldSelector where
  apiVersion : Option String := none
  fieldPath : String
deriving DecidableEq, Inhabited

def ObjectFieldSelector.codec : Codec ObjectFieldSelector :=
  (Record.of ObjectFieldSelector ObjectFieldSelector.mk
    |>.optional "apiVersion" (·.apiVersion) .text
    |>.lenient "fieldPath" (·.fieldPath) .text).codec

/-- Where the value of an environment variable comes from. -/
structure EnvVarSource where
  configMapKeyRef : Option KeySelector := none
  fieldRef : Option ObjectFieldSelector := none
  secretKeyRef : Option KeySelector := none
deriving DecidableEq, Inhabited

def EnvVarSource.codec : Codec EnvVarSource :=
  (Record.of EnvVarSource EnvVarSource.mk
    |>.optional "configMapKeyRef" (·.configMapKeyRef) KeySelector.codec
    |>.optional "fieldRef" (·.fieldRef) ObjectFieldSelector.codec
    |>.optional "secretKeyRef" (·.secretKeyRef) KeySelector.codec).codec

/-- An environment variable. -/
structure EnvVar where
  name : String
  value : Option String := none
  valueFrom : Option EnvVarSource := none
deriving DecidableEq, Inhabited

def EnvVar.codec : Codec EnvVar :=
  (Record.of EnvVar EnvVar.mk
    |>.lenient "name" (·.name) .text
    |>.optional "value" (·.value) .text
    |>.optional "valueFrom" (·.valueFrom) EnvVarSource.codec).codec

/-- A probe that runs a command. -/
structure ExecAction where
  command : Option (List String) := none
deriving DecidableEq, Inhabited

def ExecAction.codec : Codec ExecAction :=
  (Record.of ExecAction ExecAction.mk
    |>.optional "command" (·.command) (.list .text)).codec

/-- A probe that sends a request. -/
structure HTTPGetAction where
  host : Option String := none
  path : Option String := none
  port : IntOrString
  scheme : Option String := none
deriving DecidableEq, Inhabited

def HTTPGetAction.codec : Codec HTTPGetAction :=
  (Record.of HTTPGetAction HTTPGetAction.mk
    |>.optional "host" (·.host) .text
    |>.optional "path" (·.path) .text
    |>.lenient "port" (·.port) IntOrString.codec
    |>.optional "scheme" (·.scheme) .text).codec

/-- A probe that opens a connection. -/
structure TCPSocketAction where
  host : Option String := none
  port : IntOrString
deriving DecidableEq, Inhabited

def TCPSocketAction.codec : Codec TCPSocketAction :=
  (Record.of TCPSocketAction TCPSocketAction.mk
    |>.optional "host" (·.host) .text
    |>.lenient "port" (·.port) IntOrString.codec).codec

/-- A check of the health of a container. -/
structure Probe where
  exec : Option ExecAction := none
  failureThreshold : Option Int32 := none
  httpGet : Option HTTPGetAction := none
  initialDelaySeconds : Option Int32 := none
  periodSeconds : Option Int32 := none
  successThreshold : Option Int32 := none
  tcpSocket : Option TCPSocketAction := none
  timeoutSeconds : Option Int32 := none
deriving DecidableEq, Inhabited

def Probe.codec : Codec Probe :=
  (Record.of Probe Probe.mk
    |>.optional "exec" (·.exec) ExecAction.codec
    |>.optional "failureThreshold" (·.failureThreshold) .int32
    |>.optional "httpGet" (·.httpGet) HTTPGetAction.codec
    |>.optional "initialDelaySeconds" (·.initialDelaySeconds) .int32
    |>.optional "periodSeconds" (·.periodSeconds) .int32
    |>.optional "successThreshold" (·.successThreshold) .int32
    |>.optional "tcpSocket" (·.tcpSocket) TCPSocketAction.codec
    |>.optional "timeoutSeconds" (·.timeoutSeconds) .int32).codec

/-- A port that a container listens on. -/
structure ContainerPort where
  containerPort : Int32
  hostPort : Option Int32 := none
  name : Option String := none
  protocol : Option String := none
deriving DecidableEq, Inhabited

def ContainerPort.codec : Codec ContainerPort :=
  (Record.of ContainerPort ContainerPort.mk
    |>.lenient "containerPort" (·.containerPort) .int32
    |>.optional "hostPort" (·.hostPort) .int32
    |>.optional "name" (·.name) .text
    |>.optional "protocol" (·.protocol) .text).codec

/-- A device that a container asks for. -/
structure ResourceClaim where
  name : String
deriving DecidableEq, Inhabited

def ResourceClaim.codec : Codec ResourceClaim :=
  (Record.of ResourceClaim ResourceClaim.mk
    |>.lenient "name" (·.name) .text).codec

/-- Quantities of resources that a container is limited to and asks for. -/
structure ResourceRequirements where
  claims : Option (List ResourceClaim) := none
  limits : Option StringMap := none
  requests : Option StringMap := none
deriving DecidableEq, Inhabited

def ResourceRequirements.codec : Codec ResourceRequirements :=
  (Record.of ResourceRequirements ResourceRequirements.mk
    |>.optional "claims" (·.claims) (.list ResourceClaim.codec)
    |>.optional "limits" (·.limits) .stringMap
    |>.optional "requests" (·.requests) .stringMap).codec

/-- Where a volume of the pod is seen in a container. -/
structure VolumeMount where
  mountPath : String
  /-- Name of the volume. -/
  name : String
  readOnly : Option Bool := none
  subPath : Option String := none
deriving DecidableEq, Inhabited

def VolumeMount.codec : Codec VolumeMount :=
  (Record.of VolumeMount VolumeMount.mk
    |>.lenient "mountPath" (·.mountPath) .text
    |>.lenient "name" (·.name) .text
    |>.optional "readOnly" (·.readOnly) .flag
    |>.optional "subPath" (·.subPath) .text).codec

/-- A container of a pod. -/
structure Container where
  args : Option (List String) := none
  command : Option (List String) := none
  env : Option (List EnvVar) := none
  image : Option String := none
  imagePullPolicy : Option String := none
  livenessProbe : Option Probe := none
  name : String
  ports : Option (List ContainerPort) := none
  readinessProbe : Option Probe := none
  resources : Option ResourceRequirements := none
  startupProbe : Option Probe := none
  volumeMounts : Option (List VolumeMount) := none
  workingDir : Option String := none
deriving DecidableEq, Inhabited

def Container.codec : Codec Container :=
  (Record.of Container Container.mk
    |>.optional "args" (·.args) (.list .text)
    |>.optional "command" (·.command) (.list .text)
    |>.optional "env" (·.env) (.list EnvVar.codec)
    |>.optional "image" (·.image) .text
    |>.optional "imagePullPolicy" (·.imagePullPolicy) .text
    |>.optional "livenessProbe" (·.livenessProbe) Probe.codec
    |>.lenient "name" (·.name) .text
    |>.optional "ports" (·.ports) (.list ContainerPort.codec)
    |>.optional "readinessProbe" (·.readinessProbe) Probe.codec
    |>.optional "resources" (·.resources) ResourceRequirements.codec
    |>.optional "startupProbe" (·.startupProbe) Probe.codec
    |>.optional "volumeMounts" (·.volumeMounts) (.list VolumeMount.codec)
    |>.optional "workingDir" (·.workingDir) .text).codec

end Reconciliation
