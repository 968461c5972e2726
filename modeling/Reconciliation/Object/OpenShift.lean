import Reconciliation.Codec

/-! # Routes and image streams

Kinds that a cluster serves only if it is an OpenShift cluster.
-/

namespace Reconciliation

/-- The service behind a route. -/
structure RouteTargetReference where
  kind : String
  name : String
  weight : Option Int32 := none
deriving DecidableEq, Inhabited

def RouteTargetReference.codec : Codec RouteTargetReference :=
  (Record.of RouteTargetReference RouteTargetReference.mk
    |>.required "kind" (·.kind) .text
    |>.required "name" (·.name) .text
    |>.optional "weight" (·.weight) .int32).rowCodec

/-- The port of the service behind a route. -/
structure RoutePort where
  targetPort : String
deriving DecidableEq, Inhabited

def RoutePort.codec : Codec RoutePort :=
  (Record.of RoutePort RoutePort.mk
    |>.required "targetPort" (·.targetPort) .text).rowCodec

/-- How a route is secured. -/
structure TlsConfig where
  termination : String
  insecureEdgeTerminationPolicy : Option String := none
deriving DecidableEq, Inhabited

def TlsConfig.codec : Codec TlsConfig :=
  (Record.of TlsConfig TlsConfig.mk
    |>.required "termination" (·.termination) .text
    |>.optional "insecureEdgeTerminationPolicy" (·.insecureEdgeTerminationPolicy) .text).rowCodec

/-- A host name and the service behind it. -/
structure RouteSpec where
  host : Option String := none
  target : RouteTargetReference
  port : Option RoutePort := none
  tls : Option TlsConfig := none
deriving DecidableEq, Inhabited

def RouteSpec.codec : Codec RouteSpec :=
  (Record.of RouteSpec RouteSpec.mk
    |>.optional "host" (·.host) .text
    |>.defaulted "to" (·.target) RouteTargetReference.codec
    |>.optional "port" (·.port) RoutePort.codec
    |>.optional "tls" (·.tls) TlsConfig.codec).rowCodec

/-- The content of a route. -/
structure Route where
  spec : RouteSpec
deriving DecidableEq, Inhabited

def Route.record : Record Route Route :=
  Record.of Route Route.mk
    |>.required "spec" (·.spec) RouteSpec.codec

/-- The image that a tag stands for. -/
structure TagObjectReference where
  kind : String
  name : String
  namespaceName : Option String := none
deriving DecidableEq, Inhabited

def TagObjectReference.codec : Codec TagObjectReference :=
  (Record.of TagObjectReference TagObjectReference.mk
    |>.required "kind" (·.kind) .text
    |>.required "name" (·.name) .text
    |>.optional "namespace" (·.namespaceName) .text).rowCodec

/-- How the image of a tag is imported. -/
structure TagImportPolicy where
  insecure : Option Bool := none
  scheduled : Option Bool := none
deriving DecidableEq, Inhabited

def TagImportPolicy.codec : Codec TagImportPolicy :=
  (Record.of TagImportPolicy TagImportPolicy.mk
    |>.optional "insecure" (·.insecure) .flag
    |>.optional "scheduled" (·.scheduled) .flag).rowCodec

/-- How the image of a tag is referred to. -/
structure TagReferencePolicy where
  type : String
deriving DecidableEq, Inhabited

def TagReferencePolicy.codec : Codec TagReferencePolicy :=
  (Record.of TagReferencePolicy TagReferencePolicy.mk
    |>.required "type" (·.type) .text).rowCodec

/-- A tag of an image stream. -/
structure TagReference where
  name : String
  annotations : Option StringMap := none
  source : Option TagObjectReference := none
  importPolicy : Option TagImportPolicy := none
  referencePolicy : Option TagReferencePolicy := none
deriving DecidableEq, Inhabited

def TagReference.codec : Codec TagReference :=
  (Record.of TagReference TagReference.mk
    |>.required "name" (·.name) .text
    |>.optional "annotations" (·.annotations) .stringMap
    |>.optional "from" (·.source) TagObjectReference.codec
    |>.optional "importPolicy" (·.importPolicy) TagImportPolicy.codec
    |>.optional "referencePolicy" (·.referencePolicy) TagReferencePolicy.codec).rowCodec

/-- The tags of an image stream. -/
structure ImageStreamSpec where
  tags : List TagReference
deriving DecidableEq, Inhabited

def ImageStreamSpec.codec : Codec ImageStreamSpec :=
  (Record.of ImageStreamSpec ImageStreamSpec.mk
    |>.defaulted "tags" (·.tags) (.list TagReference.codec)).rowCodec

/-- The content of an image stream. -/
structure ImageStream where
  spec : ImageStreamSpec
deriving DecidableEq, Inhabited

def ImageStream.record : Record ImageStream ImageStream :=
  Record.of ImageStream ImageStream.mk
    |>.required "spec" (·.spec) ImageStreamSpec.codec

end Reconciliation
