import Reconciliation.Codec

/-! # Config maps and secrets

Named texts and bytes that pods read. The texts of a secret are written as `stringData`; the server
keeps them as the bytes in `data`.
-/

namespace Reconciliation

/-- The content of a config map. -/
structure ConfigMap where
  binaryData : Option (SortedMap String (List UInt8)) := none
  data : Option StringMap := none
  immutable : Option Bool := none
deriving DecidableEq, Inhabited

def ConfigMap.record : Record ConfigMap ConfigMap :=
  Record.of ConfigMap ConfigMap.mk
    |>.optional "binaryData" (·.binaryData) (.map .bytes)
    |>.optional "data" (·.data) .stringMap
    |>.optional "immutable" (·.immutable) .flag

/-- The content of a secret. -/
structure Secret where
  data : Option (SortedMap String (List UInt8)) := none
  immutable : Option Bool := none
  stringData : Option StringMap := none
  type : Option String := none
deriving DecidableEq, Inhabited

def Secret.record : Record Secret Secret :=
  Record.of Secret Secret.mk
    |>.optional "data" (·.data) (.map .bytes)
    |>.optional "immutable" (·.immutable) .flag
    |>.optional "stringData" (·.stringData) .stringMap
    |>.optional "type" (·.type) .text

end Reconciliation
