/-! # JSON values

The values that objects are written as and read from. A number written as a plain integer is kept as
an integer; a number written with a fraction or an exponent keeps its text, because no field of any
object accepts one, not even when it denotes a whole number.
-/

namespace Reconciliation

inductive Json
  | null
  | bool (value : Bool)
  | integer (value : Int)
  | fractional (literal : String)
  | string (value : String)
  | array (items : List Json)
  /-- The members in the order they are written; no two have the same name. -/
  | object (members : List (String × Json))
deriving Inhabited

namespace Json

/-- The member called `name` of an object. -/
def member? (name : String) : Json → Option Json
  | .object members => members.lookup name
  | _ => none

/-- The items of an array. -/
def items? : Json → Option (List Json)
  | .array items => some items
  | _ => none

/-- Set the member called `name`, in place if it is there and at the end otherwise. -/
def setMember (name : String) (value : Json) : List (String × Json) → List (String × Json)
  | [] => [(name, value)]
  | (other, old) :: rest =>
      if other = name then (name, value) :: rest else (other, old) :: setMember name value rest

end Json

end Reconciliation
