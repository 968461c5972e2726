import Reconciliation.Object.IntOrString

/-! # Services

An address under which the pods with certain labels are reached.
-/

namespace Reconciliation

/-- A port of a service and the port of the pods behind it. -/
structure ServicePort where
  appProtocol : Option String := none
  name : Option String := none
  nodePort : Option Int32 := none
  port : Int32
  protocol : Option String := none
  targetPort : Option IntOrString := none
deriving DecidableEq, Inhabited

def ServicePort.codec : Codec ServicePort :=
  (Record.of ServicePort ServicePort.mk
    |>.optional "appProtocol" (·.appProtocol) .text
    |>.optional "name" (·.name) .text
    |>.optional "nodePort" (·.nodePort) .int32
    |>.lenient "port" (·.port) .int32
    |>.optional "protocol" (·.protocol) .text
    |>.optional "targetPort" (·.targetPort) IntOrString.codec).codec

/-- The ports of a service and the pods behind it. -/
structure ServiceSpec where
  clusterIP : Option String := none
  clusterIPs : Option (List String) := none
  internalTrafficPolicy : Option String := none
  ports : Option (List ServicePort) := none
  selector : Option StringMap := none
  sessionAffinity : Option String := none
  type : Option String := none
deriving DecidableEq, Inhabited

def ServiceSpec.codec : Codec ServiceSpec :=
  (Record.of ServiceSpec ServiceSpec.mk
    |>.optional "clusterIP" (·.clusterIP) .text
    |>.optional "clusterIPs" (·.clusterIPs) (.list .text)
    |>.optional "internalTrafficPolicy" (·.internalTrafficPolicy) .text
    |>.optional "ports" (·.ports) (.list ServicePort.codec)
    |>.optional "selector" (·.selector) .stringMap
    |>.optional "sessionAffinity" (·.sessionAffinity) .text
    |>.optional "type" (·.type) .text).codec

/-- The content of a service. -/
structure Service where
  spec : Option ServiceSpec := none
deriving DecidableEq, Inhabited

def Service.record : Record Service Service :=
  Record.of Service Service.mk
    |>.optional "spec" (·.spec) ServiceSpec.codec

end Reconciliation
