import Reconciliation.Codec

/-! # Numbers or names

A field that holds either a number or a string: the number of a port or its name, a count or a percentage.
The number one and the string `"1"` are different values.
-/

namespace Reconciliation

inductive IntOrString
  | int (value : Int32)
  | string (value : String)
deriving DecidableEq

instance : Inhabited IntOrString := ⟨.int 0⟩

def IntOrString.codec : Codec IntOrString where
  encode
    | .int value => Codec.int32.encode value
    | .string value => .string value
  decode?
    | .string value => some (.string value)
    | json => (Codec.int32.decode? json).map .int

end Reconciliation
