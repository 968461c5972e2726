import Reconciliation.Codec

/-! # App stacks

An application of one container. It owns the objects that the application is made of.
-/

namespace Reconciliation

/-- The application. -/
structure AppStackSpec where
  image : String
  /-- Left to an autoscaler if absent. -/
  replicas : Option Int32 := none
  port : Int32
  /-- Whether there is a disruption budget. -/
  podDisruptionBudget : Bool
  /-- Whether there is a monitor of the service. -/
  monitoring : Bool
deriving DecidableEq, Inhabited

def AppStackSpec.codec : Codec AppStackSpec :=
  (Record.of AppStackSpec AppStackSpec.mk
    |>.required "image" (·.image) .text
    |>.optional "replicas" (·.replicas) .int32
    |>.required "port" (·.port) .int32
    |>.defaulted "podDisruptionBudget" (·.podDisruptionBudget) .flag
    |>.defaulted "monitoring" (·.monitoring) .flag).rowCodec

/-- The content of an app stack. -/
structure AppStack where
  spec : AppStackSpec
deriving DecidableEq, Inhabited

def AppStack.record : Record AppStack AppStack :=
  Record.of AppStack AppStack.mk
    |>.required "spec" (·.spec) AppStackSpec.codec

end Reconciliation
