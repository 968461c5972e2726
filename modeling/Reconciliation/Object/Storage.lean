import Reconciliation.Codec

/-! # Claims of storage

A claim of a volume that outlives the pods that use it.
-/

namespace Reconciliation

/-- How much storage a claim is limited to and asks for. -/
structure VolumeResourceRequirements where
  limits : Option StringMap := none
  requests : Option StringMap := none
deriving DecidableEq, Inhabited

def VolumeResourceRequirements.codec : Codec VolumeResourceRequirements :=
  (Record.of VolumeResourceRequirements VolumeResourceRequirements.mk
    |>.optional "limits" (·.limits) .stringMap
    |>.optional "requests" (·.requests) .stringMap).codec

/-- What storage is claimed. -/
structure PersistentVolumeClaimSpec where
  accessModes : Option (List String) := none
  resources : Option VolumeResourceRequirements := none
  storageClassName : Option String := none
  volumeName : Option String := none
deriving DecidableEq, Inhabited

def PersistentVolumeClaimSpec.codec : Codec PersistentVolumeClaimSpec :=
  (Record.of PersistentVolumeClaimSpec PersistentVolumeClaimSpec.mk
    |>.optional "accessModes" (·.accessModes) (.list .text)
    |>.optional "resources" (·.resources) VolumeResourceRequirements.codec
    |>.optional "storageClassName" (·.storageClassName) .text
    |>.optional "volumeName" (·.volumeName) .text).codec

/-- The content of a claim. -/
structure PersistentVolumeClaim where
  spec : Option PersistentVolumeClaimSpec := none
deriving DecidableEq, Inhabited

def PersistentVolumeClaim.record : Record PersistentVolumeClaim PersistentVolumeClaim :=
  Record.of PersistentVolumeClaim PersistentVolumeClaim.mk
    |>.optional "spec" (·.spec) PersistentVolumeClaimSpec.codec

end Reconciliation
