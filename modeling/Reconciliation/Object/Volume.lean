import Reconciliation.Codec

/-! # Volumes

The volumes of a pod, each with a name that mounts refer to and a source of its content.
-/

namespace Reconciliation

/-- Which key of a config map becomes which file. -/
structure KeyToPath where
  key : String
  mode : Option Int32 := none
  path : String
deriving DecidableEq, Inhabited

def KeyToPath.codec : Codec KeyToPath :=
  (Record.of KeyToPath KeyToPath.mk
    |>.lenient "key" (·.key) .text
    |>.optional "mode" (·.mode) .int32
    |>.lenient "path" (·.path) .text).codec

/-- Files with the content of a config map. -/
structure ConfigMapVolumeSource where
  defaultMode : Option Int32 := none
  items : Option (List KeyToPath) := none
  name : String
  optional : Option Bool := none
deriving DecidableEq, Inhabited

def ConfigMapVolumeSource.codec : Codec ConfigMapVolumeSource :=
  (Record.of ConfigMapVolumeSource ConfigMapVolumeSource.mk
    |>.optional "defaultMode" (·.defaultMode) .int32
    |>.optional "items" (·.items) (.list KeyToPath.codec)
    |>.lenient "name" (·.name) .text
    |>.optional "optional" (·.optional) .flag).codec

/-- A directory that lives as long as the pod. -/
structure EmptyDirVolumeSource where
  medium : Option String := none
  sizeLimit : Option String := none
deriving DecidableEq, Inhabited

def EmptyDirVolumeSource.codec : Codec EmptyDirVolumeSource :=
  (Record.of EmptyDirVolumeSource EmptyDirVolumeSource.mk
    |>.optional "medium" (·.medium) .text
    |>.optional "sizeLimit" (·.sizeLimit) .text).codec

/-- A directory of the machine that the pod runs on. -/
structure HostPathVolumeSource where
  path : String
  type : Option String := none
deriving DecidableEq, Inhabited

def HostPathVolumeSource.codec : Codec HostPathVolumeSource :=
  (Record.of HostPathVolumeSource HostPathVolumeSource.mk
    |>.lenient "path" (·.path) .text
    |>.optional "type" (·.type) .text).codec

/-- A volume that a claim has been granted. -/
structure PersistentVolumeClaimVolumeSource where
  claimName : String
  readOnly : Option Bool := none
deriving DecidableEq, Inhabited

def PersistentVolumeClaimVolumeSource.codec : Codec PersistentVolumeClaimVolumeSource :=
  (Record.of PersistentVolumeClaimVolumeSource PersistentVolumeClaimVolumeSource.mk
    |>.lenient "claimName" (·.claimName) .text
    |>.optional "readOnly" (·.readOnly) .flag).codec

/-- Files with the content of a secret. -/
structure SecretVolumeSource where
  defaultMode : Option Int32 := none
  optional : Option Bool := none
  secretName : Option String := none
deriving DecidableEq, Inhabited

def SecretVolumeSource.codec : Codec SecretVolumeSource :=
  (Record.of SecretVolumeSource SecretVolumeSource.mk
    |>.optional "defaultMode" (·.defaultMode) .int32
    |>.optional "optional" (·.optional) .flag
    |>.optional "secretName" (·.secretName) .text).codec

/-- A volume of a pod. -/
structure Volume where
  configMap : Option ConfigMapVolumeSource := none
  emptyDir : Option EmptyDirVolumeSource := none
  hostPath : Option HostPathVolumeSource := none
  name : String
  persistentVolumeClaim : Option PersistentVolumeClaimVolumeSource := none
  secret : Option SecretVolumeSource := none
deriving DecidableEq, Inhabited

def Volume.codec : Codec Volume :=
  (Record.of Volume Volume.mk
    |>.optional "configMap" (·.configMap) ConfigMapVolumeSource.codec
    |>.optional "emptyDir" (·.emptyDir) EmptyDirVolumeSource.codec
    |>.optional "hostPath" (·.hostPath) HostPathVolumeSource.codec
    |>.lenient "name" (·.name) .text
    |>.optional "persistentVolumeClaim" (·.persistentVolumeClaim) PersistentVolumeClaimVolumeSource.codec
    |>.optional "secret" (·.secret) SecretVolumeSource.codec).codec

end Reconciliation
